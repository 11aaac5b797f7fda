import WandArena.Proofs.Schedule.History

/-! Agendas on heaps.

An agenda can be kept on a heap: a task gets a ticket with its tick and the next number, and the
least ticket comes off first. A `Heap` may keep its tickets in whatever order it likes, so tasks of
one tick lie on it in no order at all. The numbers make up for that: whatever is asked of a
scheduler and of a heap, they hand out the same tasks in the same order, and that is told by the
history of the requests alone (`Scheduler.told_by_history`). -/
namespace WandArena
variable {ε τ : Type}

/-! ### Heaps -/

/-- A task for a tick, numbered in the order of scheduling. -/
structure Ticket (τ : Type) where
  tick : Int
  number : Nat
  task : τ

namespace Ticket

def entry (t : Ticket τ) : Int × τ := (t.tick, t.task)

/-- Comes first: an earlier tick, or the same one and a smaller number. -/
def Precedes (t u : Ticket τ) : Prop := t.tick < u.tick ∨ t.tick = u.tick ∧ t.number < u.number

instance (t u : Ticket τ) : Decidable (t.Precedes u) :=
  inferInstanceAs (Decidable (_ ∨ _))

end Ticket

/-- A collection of tickets that gives out one that none precedes. -/
structure Heap (τ : Type) where
  Content : Type
  tickets : Content → List (Ticket τ)
  empty : Content
  push : Ticket τ → Content → Content
  pop? : Content → Option (Ticket τ × Content)
  tickets_empty : tickets empty = []
  tickets_push : ∀ ticket content, (tickets (push ticket content)).Perm (ticket :: tickets content)
  tickets_of_none : ∀ {content}, pop? content = none → tickets content = []
  tickets_of_some : ∀ {content ticket rest}, pop? content = some (ticket, rest) →
    (tickets content).Perm (ticket :: tickets rest)
  least : ∀ {content ticket rest}, pop? content = some (ticket, rest) →
    ∀ other ∈ tickets rest, ¬ other.Precedes ticket

namespace Heap

/-- The tickets with those first that no other precedes. -/
def lineUp (tickets : List (Ticket τ)) : List (Ticket τ) :=
  tickets.mergeSort fun t u => !decide (u.Precedes t)

theorem lineUp_perm (tickets : List (Ticket τ)) : (lineUp tickets).Perm tickets :=
  List.mergeSort_perm tickets _

theorem lineUp_sorted (tickets : List (Ticket τ)) :
    (lineUp tickets).Pairwise fun t u => ¬ u.Precedes t := by
  have h : (lineUp tickets).Pairwise fun t u => (!decide (u.Precedes t)) = true := by
    refine List.pairwise_mergeSort (fun t u v => ?_) (fun t u => ?_) tickets
    · simp only [Bool.not_eq_true', decide_eq_false_iff_not]
      unfold Ticket.Precedes
      omega
    · simp only [Bool.or_eq_true, Bool.not_eq_true', decide_eq_false_iff_not]
      unfold Ticket.Precedes
      omega
  exact h.imp fun h => by simpa using h

def first? : List (Ticket τ) → Option (Ticket τ × List (Ticket τ))
  | [] => none
  | ticket :: rest => some (ticket, rest)

theorem first?_eq_some {tickets rest : List (Ticket τ)} {ticket : Ticket τ} :
    first? tickets = some (ticket, rest) ↔ tickets = ticket :: rest := by
  cases tickets <;> simp [first?]

theorem first?_eq_none {tickets : List (Ticket τ)} : first? tickets = none ↔ tickets = [] := by
  cases tickets <;> simp [first?]

/-- Tickets in a list, lined up anew whenever one comes off. -/
def sorting : Heap τ where
  Content := List (Ticket τ)
  tickets := id
  empty := []
  push := List.cons
  pop? := fun tickets => first? (lineUp tickets)
  tickets_empty := rfl
  tickets_push := fun _ _ => .refl _
  tickets_of_none := fun h => List.nil_perm.1 (first?_eq_none.1 h ▸ lineUp_perm _)
  tickets_of_some := fun h => (first?_eq_some.1 h ▸ lineUp_perm _).symm
  least := fun h => (List.pairwise_cons.1 (first?_eq_some.1 h ▸ lineUp_sorted _)).1

instance : Inhabited (Heap τ) := ⟨sorting⟩

variable (H : Heap τ)

/-- The tick of the ticket that comes off next. -/
def nextTick? (content : H.Content) : Option Int := (H.pop? content).map (·.1.tick)

/-- Takes tickets off as long as they are due. -/
def popDue (tick : Int) (content : H.Content) : List τ × H.Content :=
  match _hpop : H.pop? content with
  | none => ([], content)
  | some (ticket, rest) =>
    if ticket.tick ≤ tick then
      let (tasks, last) := popDue tick rest
      (ticket.task :: tasks, last)
    else ([], content)
termination_by (H.tickets content).length
decreasing_by
  have hlength := (H.tickets_of_some ‹H.pop? content = some (ticket, rest)›).length_eq
  rw [hlength]
  exact Nat.lt_succ_self _

/-- The tickets of a heap in order, all with numbers that are given out already. -/
structure InLine (content : H.Content) (next : Nat) (line : List (Ticket τ)) : Prop where
  sorted : line.Pairwise Ticket.Precedes
  perm : (H.tickets content).Perm line
  numbers : ∀ ticket ∈ line, ticket.number < next

variable {H} {content rest : H.Content} {next : Nat} {line : List (Ticket τ)} {ticket : Ticket τ}

theorem InLine.empty : H.InLine H.empty 0 [] := ⟨.nil, .of_eq H.tickets_empty, nofun⟩

/-- The ticket that comes off is the first in line. -/
theorem InLine.pop (h : H.InLine content next line) (hpop : H.pop? content = some (ticket, rest)) :
    ∃ others, line = ticket :: others ∧ H.InLine rest next others := by
  have hperm : (ticket :: H.tickets rest).Perm line := (H.tickets_of_some hpop).symm.trans h.perm
  cases line with
  | nil => exact absurd hperm.length_eq (by simp)
  | cons first others =>
    obtain ⟨hfirst, hothers⟩ := List.pairwise_cons.1 h.sorted
    -- If they were two, the first in line would still be on the heap, and precede what came off.
    have hsame : first = ticket := by
      rcases List.mem_cons.1 (hperm.mem_iff.2 List.mem_cons_self) with heq | hrest
      · exact heq
      rcases List.mem_cons.1 (hperm.mem_iff.1 List.mem_cons_self) with heq | hlater
      · exact heq.symm
      · exact absurd (hfirst ticket hlater) (H.least hpop first hrest)
    subst hsame
    exact ⟨others, rfl, hothers, hperm.cons_inv,
      fun t ht => h.numbers t (List.mem_cons_of_mem _ ht)⟩

theorem InLine.nil (h : H.InLine content next line) (hpop : H.pop? content = none) : line = [] :=
  List.nil_perm.1 (H.tickets_of_none hpop ▸ h.perm)

/-- The line with a ticket behind all that are due no later. -/
def lineWith (ticket : Ticket τ) : List (Ticket τ) → List (Ticket τ)
  | [] => [ticket]
  | first :: others =>
    if first.tick ≤ ticket.tick then first :: lineWith ticket others else ticket :: first :: others

theorem lineWith_perm (ticket : Ticket τ) (line : List (Ticket τ)) :
    (lineWith ticket line).Perm (ticket :: line) := by
  induction line with
  | nil => exact .refl _
  | cons first others ih =>
    unfold lineWith
    split
    · exact (ih.cons first).trans (.swap _ _ _)
    · exact .refl _

theorem entries_lineWith (ticket : Ticket τ) (line : List (Ticket τ)) :
    (lineWith ticket line).map Ticket.entry =
      Agenda.insertEntry ticket.tick ticket.task (line.map Ticket.entry) := by
  induction line with
  | nil => rfl
  | cons first others ih =>
    rw [lineWith, List.map_cons, Agenda.insertEntry]
    by_cases hle : first.tick ≤ ticket.tick
    · have hentry : first.entry.1 ≤ ticket.tick := hle
      rw [if_pos hle, if_pos hentry, List.map_cons, ih]
    · have hentry : ¬ first.entry.1 ≤ ticket.tick := hle
      rw [if_neg hle, if_neg hentry]
      rfl

theorem lineWith_sorted (hsorted : line.Pairwise Ticket.Precedes)
    (hnumbers : ∀ t ∈ line, t.number < ticket.number) :
    (lineWith ticket line).Pairwise Ticket.Precedes := by
  induction line with
  | nil => exact List.pairwise_singleton _ _
  | cons first others ih =>
    obtain ⟨hfirst, hothers⟩ := List.pairwise_cons.1 hsorted
    have hnumber : first.number < ticket.number := hnumbers first List.mem_cons_self
    unfold lineWith
    split
    case isTrue hle =>
      have hlater := ih hothers fun t ht => hnumbers t (List.mem_cons_of_mem _ ht)
      refine List.pairwise_cons.2 ⟨fun t ht => ?_, hlater⟩
      rcases List.mem_cons.1 ((lineWith_perm ticket others).mem_iff.1 ht) with rfl | ht
      · unfold Ticket.Precedes
        omega
      · exact hfirst t ht
    case isFalse hgt =>
      refine List.pairwise_cons.2 ⟨fun t ht => .inl ?_, hsorted⟩
      rcases List.mem_cons.1 ht with rfl | ht
      · omega
      · have hprecedes := hfirst t ht
        unfold Ticket.Precedes at hprecedes
        omega

/-- A ticket with the next number goes behind all that are due no later. -/
theorem InLine.push (h : H.InLine content next line) (tick : Int) (task : τ) :
    H.InLine (H.push ⟨tick, next, task⟩ content) (next + 1) (lineWith ⟨tick, next, task⟩ line) where
  sorted := lineWith_sorted h.sorted h.numbers
  perm := (H.tickets_push _ content).trans ((h.perm.cons _).trans (lineWith_perm _ line).symm)
  numbers := by
    intro ticket hticket
    rcases List.mem_cons.1 ((lineWith_perm _ line).mem_iff.1 hticket) with rfl | hline
    · exact Nat.lt_succ_self _
    · exact Nat.lt_succ_of_lt (h.numbers ticket hline)

theorem popDue_of_none (hpop : H.pop? content = none) (tick : Int) :
    H.popDue tick content = ([], content) := by
  rw [Heap.popDue]
  split
  case h_1 => rfl
  case h_2 hsome => cases hpop.symm.trans hsome

theorem popDue_of_some (hpop : H.pop? content = some (ticket, rest)) (tick : Int) :
    H.popDue tick content =
      if ticket.tick ≤ tick then
        (ticket.task :: (H.popDue tick rest).1, (H.popDue tick rest).2)
      else ([], content) := by
  rw [Heap.popDue]
  split
  case h_1 hnone => cases hpop.symm.trans hnone
  case h_2 hsome =>
    cases hpop.symm.trans hsome
    rfl

/-- The due tickets come off as they stand in line. -/
theorem InLine.popDue (h : H.InLine content next line) (tick : Int) :
    (H.popDue tick content).1 = (line.takeWhile (·.tick ≤ tick)).map (·.task) ∧
      H.InLine (H.popDue tick content).2 next (line.dropWhile (·.tick ≤ tick)) := by
  induction line generalizing content with
  | nil =>
    cases hpop : H.pop? content with
    | none =>
      rw [popDue_of_none hpop]
      exact ⟨rfl, h⟩
    | some popped =>
      obtain ⟨others, hline, -⟩ := h.pop hpop
      cases hline
  | cons first others ih =>
    cases hpop : H.pop? content with
    | none => cases h.nil hpop
    | some popped =>
      obtain ⟨ticket, rest⟩ := popped
      obtain ⟨_, hline, hothers⟩ := h.pop hpop
      cases hline
      obtain ⟨htasks, hlater⟩ := ih hothers
      rw [popDue_of_some hpop]
      by_cases hdue : first.tick ≤ tick
      · simp only [hdue, List.takeWhile_cons, List.dropWhile_cons, decide_true, if_true,
          List.map_cons]
        exact ⟨congrArg _ htasks, hlater⟩
      · simp only [hdue, List.takeWhile_cons, List.dropWhile_cons, decide_false,
          Bool.false_eq_true, if_false, List.map_nil]
        exact ⟨trivial, h⟩

end Heap

/-! ### Schedulers on heaps -/

namespace Scheduler

/-- A scheduler whose agenda lies on a heap. -/
structure OnHeap (H : Heap τ) (ε : Type) where
  content : H.Content
  /-- The number of the next ticket. -/
  next : Nat
  waiting : Waiting ε τ

namespace OnHeap
variable {H : Heap τ}

def empty : OnHeap H ε := ⟨H.empty, 0, .empty⟩

/-- The heap holds the agenda, and the same tasks wait. -/
def Holds (heaped : OnHeap H ε) (s : Scheduler ε τ) : Prop :=
  heaped.waiting = s.waiting ∧
    ∃ line, H.InLine heaped.content heaped.next line ∧ line.map Ticket.entry = s.agenda.entries

variable {heaped : OnHeap H ε} {s : Scheduler ε τ}

/-- What comes off next is what the agenda has first. -/
theorem Holds.nextTick? (h : heaped.Holds s) :
    H.nextTick? heaped.content = s.agenda.nextTick? := by
  obtain ⟨-, line, hline, hentries⟩ := h
  rw [Agenda.nextTick?, ← hentries, Heap.nextTick?]
  cases hpop : H.pop? heaped.content with
  | none =>
    rw [hline.nil hpop]
    rfl
  | some popped =>
    obtain ⟨others, rfl, -⟩ := hline.pop hpop
    rfl

/-- Sorted in whatever way, the tickets on the heap are the agenda. -/
theorem Holds.pending (h : heaped.Holds s) {line : List (Ticket τ)}
    (hsorted : line.Pairwise Ticket.Precedes) (hperm : line.Perm (H.tickets heaped.content)) :
    line.map Ticket.entry = s.agenda.entries := by
  obtain ⟨-, line', hline', hentries⟩ := h
  have hsame : line = line' := by
    refine List.Perm.eq_of_pairwise (fun t u _ _ htu hut => ?_) hsorted hline'.sorted
      (hperm.trans hline'.perm)
    unfold Ticket.Precedes at htu hut
    omega
  rw [hsame, hentries]

variable [DecidableEq ε]

/-- Does what a request asks for. -/
def answer (heaped : OnHeap H ε) : Request ε τ → Reply τ × OnHeap H ε
  | .schedule tick task =>
    (.done, { heaped with
      content := H.push ⟨tick, heaped.next, task⟩ heaped.content, next := heaped.next + 1 })
  | .popDue tick =>
    let (tasks, content) := H.popDue tick heaped.content
    (.due tasks, { heaped with content })
  | .scheduleOn event task =>
    (.done, { heaped with waiting := heaped.waiting.register event task })
  | .trigger event =>
    let (tasks, waiting) := heaped.waiting.release event
    (.released tasks, { heaped with waiting })

/-- Answers one request after another. -/
def answerAll (heaped : OnHeap H ε) : List (Request ε τ) → List (Reply τ) × OnHeap H ε
  | [] => ([], heaped)
  | request :: later =>
    let (reply, next) := heaped.answer request
    let (replies, last) := next.answerAll later
    (reply :: replies, last)

theorem Holds.answer (h : heaped.Holds s) (request : Request ε τ) :
    (heaped.answer request).1 = (s.answer request).1 ∧
      (heaped.answer request).2.Holds (s.answer request).2 := by
  obtain ⟨content, next, waiting⟩ := heaped
  obtain ⟨hwaiting, line, hline, hentries⟩ := h
  cases hwaiting
  cases request with
  | schedule tick task =>
    refine ⟨rfl, rfl, _, hline.push tick task, ?_⟩
    rw [Heap.entries_lineWith, hentries]
    rfl
  | popDue tick =>
    obtain ⟨htasks, hlater⟩ := hline.popDue tick
    refine ⟨?_, rfl, _, hlater, ?_⟩
    · show Reply.due (H.popDue tick content).1 =
        .due ((s.agenda.entries.takeWhile (Agenda.isDue tick)).map (·.2))
      rw [htasks, ← hentries, List.takeWhile_map, List.map_map]
      rfl
    · show _ = s.agenda.entries.dropWhile (Agenda.isDue tick)
      rw [← hentries, List.dropWhile_map]
      rfl
  | scheduleOn event task => exact ⟨rfl, rfl, line, hline, hentries⟩
  | trigger event => exact ⟨rfl, rfl, line, hline, hentries⟩

theorem Holds.answerAll (h : heaped.Holds s) (requests : List (Request ε τ)) :
    (heaped.answerAll requests).1 = (s.answerAll requests).1 ∧
      (heaped.answerAll requests).2.Holds (s.answerAll requests).2 := by
  induction requests generalizing heaped s with
  | nil => exact ⟨rfl, h⟩
  | cons request later ih =>
    obtain ⟨hreply, hnext⟩ := h.answer request
    obtain ⟨hreplies, hlast⟩ := ih hnext
    exact ⟨congrArg₂ List.cons hreply hreplies, hlast⟩

end OnHeap

/-- **The history of the requests tells what a scheduler hands out, and so does a heap.** Whatever
is asked of a scheduler in whatever order, the agenda in the end is what was scheduled and not yet
taken off, sorted by tick and otherwise as it was scheduled. A heap of numbered tickets answers in
the same way, and in the end has the same agenda to give. -/
theorem told_by_history [DecidableEq ε] (H : Heap τ) (requests : List (Request ε τ)) :
    let (replies, s) := (empty : Scheduler ε τ).answerAll requests
    let (replies', heaped) := (OnHeap.empty : OnHeap H ε).answerAll requests
    Told requests replies s ∧ replies' = replies ∧ heaped.waiting = s.waiting ∧
      H.nextTick? heaped.content = s.agenda.nextTick? ∧
      ∀ line : List (Ticket τ), line.Pairwise Ticket.Precedes →
        line.Perm (H.tickets heaped.content) → line.map Ticket.entry = s.agenda.entries := by
  have htold := told_answerAll requests
  have hstart : (OnHeap.empty : OnHeap H ε).Holds empty := ⟨rfl, [], .empty, rfl⟩
  obtain ⟨hreplies, hholds⟩ := hstart.answerAll requests
  exact ⟨htold, hreplies, hholds.1, hholds.nextTick?, fun _ => hholds.pending⟩

/-- Three tasks that come off a heap, and one that stays. -/
theorem told_by_history_sorting :
    let requests : List (Request Unit String) :=
      [.schedule 3 "first", .schedule 5 "late", .schedule (-1) "early", .schedule 3 "second",
        .popDue 4]
    ((OnHeap.empty : OnHeap Heap.sorting Unit).answerAll requests).1 =
        [.done, .done, .done, .done, .due ["early", "first", "second"]] ∧
      unpopped requests = [(5, "late")] := by
  intro requests
  obtain ⟨-, hreplies, -⟩ := told_by_history (Heap.sorting (τ := String)) requests
  exact ⟨hreplies.trans rfl, rfl⟩

end Scheduler
end WandArena
