import Mathlib.Data.List.Induction
import WandArena.Proofs.Schedule.Pending
import WandArena.Schedule.Scheduler

/-! What a scheduler holds, told from what was asked of it.

A history is the list of all requests so far, oldest first. A request may open a matter (a task
that is scheduled, or registered for an event) and may close matters that were opened before it
(all that are due at a tick, or all that wait for an event); `unsettled` are those that no later
request closed. The agenda of a scheduler is the tasks that were not taken off yet, sorted by tick
and otherwise as they were scheduled, and its waiting list is those that were not released yet
(`Scheduler.told_answerAll`). -/
namespace WandArena

/-! ### Sorted by tick -/

namespace Agenda
variable {τ : Type}

/-- The entries of one tick. -/
def entriesAt (tick : Int) (entries : List (Int × τ)) : List (Int × τ) :=
  entries.filter fun entry => entry.1 = tick

/-- Sorted by tick, entries of the same tick in the order they were in. -/
def inOrder (entries : List (Int × τ)) : List (Int × τ) :=
  entries.mergeSort fun a b => decide (a.1 ≤ b.1)

theorem mem_entriesAt {tick : Int} {entries : List (Int × τ)} {e : Int × τ} :
    e ∈ entriesAt tick entries ↔ e ∈ entries ∧ e.1 = tick := by
  simp [entriesAt]

theorem entriesAt_cons (tick : Int) (e : Int × τ) (entries : List (Int × τ)) :
    entriesAt tick (e :: entries) =
      if e.1 = tick then e :: entriesAt tick entries else entriesAt tick entries := by
  simp [entriesAt, List.filter_cons]

theorem entriesAt_append (tick : Int) (entries later : List (Int × τ)) :
    entriesAt tick (entries ++ later) = entriesAt tick entries ++ entriesAt tick later :=
  List.filter_append entries later

theorem inOrder_perm (entries : List (Int × τ)) : (inOrder entries).Perm entries :=
  List.mergeSort_perm entries _

theorem sorted_inOrder (entries : List (Int × τ)) :
    (inOrder entries).Pairwise fun a b => a.1 ≤ b.1 := by
  have h : (inOrder entries).Pairwise fun a b => decide (a.1 ≤ b.1) = true :=
    List.pairwise_mergeSort (fun a b c => by simpa using Int.le_trans)
      (fun a b => by simpa using Int.le_total _ _) entries
  exact h.imp of_decide_eq_true

/-- Sorting leaves the entries of one tick in the order they were in. -/
theorem entriesAt_inOrder (tick : Int) (entries : List (Int × τ)) :
    entriesAt tick (inOrder entries) = entriesAt tick entries := by
  have hsorted : (entriesAt tick entries).Pairwise fun a b => decide (a.1 ≤ b.1) = true := by
    refine List.Pairwise.imp_of_mem ?_ (List.pairwise_of_forall fun _ _ => trivial)
    intro a b ha hb _
    rw [(mem_entriesAt.mp ha).2, (mem_entriesAt.mp hb).2]
    exact decide_eq_true (Int.le_refl tick)
  have hsub : (entriesAt tick entries).Sublist (inOrder entries) :=
    List.sublist_mergeSort (fun a b c => by simpa using Int.le_trans)
      (fun a b => by simpa using Int.le_total _ _) hsorted List.filter_sublist
  have hagain : entriesAt tick (entriesAt tick entries) = entriesAt tick entries := by
    simp [entriesAt]
  have hat : (entriesAt tick entries).Sublist (entriesAt tick (inOrder entries)) :=
    hagain ▸ hsub.filter _
  have hlength := ((inOrder_perm entries).filter fun entry => entry.1 = tick).length_eq
  exact (hat.eq_of_length hlength.symm).symm

theorem mem_iff_of_entriesAt {l l' : List (Int × τ)}
    (h : ∀ tick, entriesAt tick l = entriesAt tick l') (e : Int × τ) : e ∈ l ↔ e ∈ l' := by
  have hmem (entries : List (Int × τ)) : e ∈ entries ↔ e ∈ entriesAt e.1 entries := by
    rw [mem_entriesAt, and_iff_left rfl]
  rw [hmem l, h, ← hmem l']

/-- A list sorted by tick is known once it is known which entries it has for each tick. -/
theorem eq_of_entriesAt {l l' : List (Int × τ)} (hl : l.Pairwise fun a b => a.1 ≤ b.1)
    (hl' : l'.Pairwise fun a b => a.1 ≤ b.1) (h : ∀ tick, entriesAt tick l = entriesAt tick l') :
    l = l' := by
  have hmem := mem_iff_of_entriesAt h
  induction l generalizing l' with
  | nil =>
    cases l' with
    | nil => rfl
    | cons b rest' => cases (hmem b).mpr List.mem_cons_self
  | cons a rest ih =>
    cases l' with
    | nil => cases (hmem a).mp List.mem_cons_self
    | cons b rest' =>
      obtain ⟨hfirst, hrest⟩ := List.pairwise_cons.mp hl
      obtain ⟨hfirst', hrest'⟩ := List.pairwise_cons.mp hl'
      -- Either head is in the other list too, so neither can be later than the other.
      have hle : a.1 ≤ b.1 := by
        rcases List.mem_cons.mp ((hmem b).mpr List.mem_cons_self) with rfl | hb
        · exact Int.le_refl _
        · exact hfirst b hb
      have hge : b.1 ≤ a.1 := by
        rcases List.mem_cons.mp ((hmem a).mp List.mem_cons_self) with rfl | ha
        · exact Int.le_refl _
        · exact hfirst' a ha
      have hhead := h a.1
      rw [entriesAt_cons, entriesAt_cons, if_pos rfl, if_pos (Int.le_antisymm hge hle)] at hhead
      obtain rfl : a = b := (List.cons.inj hhead).1
      have htails (tick : Int) : entriesAt tick rest = entriesAt tick rest' := by
        have htick := h tick
        rw [entriesAt_cons, entriesAt_cons] at htick
        by_cases ha : a.1 = tick
        · rw [if_pos ha, if_pos ha] at htick
          exact (List.cons.inj htick).2
        · rwa [if_neg ha, if_neg ha] at htick
      rw [ih hrest hrest' htails (mem_iff_of_entriesAt htails)]

/-- A new entry goes behind the others of its tick. -/
theorem entriesAt_insertEntry (tick : Int) (task : τ) {entries : List (Int × τ)}
    (h : entries.Pairwise fun a b => a.1 ≤ b.1) (t : Int) :
    entriesAt t (insertEntry tick task entries) = entriesAt t (entries ++ [(tick, task)]) := by
  induction entries with
  | nil => rfl
  | cons entry rest ih =>
    obtain ⟨hfirst, hrest⟩ := List.pairwise_cons.mp h
    unfold insertEntry
    split
    case isTrue hle => rw [List.cons_append, entriesAt_cons, entriesAt_cons, ih hrest]
    case isFalse hgt =>
      -- From here on everything is later, so nothing of the new tick is passed over.
      have hnone : t = tick → entriesAt t (entry :: rest) = [] := by
        rintro rfl
        refine List.filter_eq_nil_iff.mpr fun e he => ?_
        have hlater : entry.1 ≤ e.1 := by
          rcases List.mem_cons.mp he with rfl | he
          · exact Int.le_refl _
          · exact hfirst e he
        simp only [decide_eq_true_eq]
        omega
      rw [entriesAt_append, entriesAt_cons t (tick, task), entriesAt_cons t (tick, task)]
      by_cases ht : tick = t
      · rw [hnone ht.symm, if_pos ht, if_pos ht]
        rfl
      · rw [if_neg ht, if_neg ht]
        exact (List.append_nil _).symm

theorem insertEntry_inOrder (tick : Int) (task : τ) (entries : List (Int × τ)) :
    insertEntry tick task (inOrder entries) = inOrder (entries ++ [(tick, task)]) := by
  refine eq_of_entriesAt (sorted_insertEntry tick task (sorted_inOrder entries))
    (sorted_inOrder _) fun t => ?_
  rw [entriesAt_insertEntry tick task (sorted_inOrder entries), entriesAt_inOrder,
    entriesAt_append, entriesAt_inOrder, entriesAt_append]

/-- Tasks that are scheduled come behind those of their tick that are there. -/
theorem entries_scheduleAll {agenda : Agenda τ} {entries : List (Int × τ)}
    (h : agenda.entries = inOrder entries) (later : List (Int × τ)) :
    (agenda.scheduleAll later).entries = inOrder (entries ++ later) := by
  induction later generalizing agenda entries with
  | nil => rwa [List.append_nil]
  | cons entry rest ih =>
    have hone : (agenda.schedule entry.1 entry.2).entries = inOrder (entries ++ [entry]) := by
      show insertEntry entry.1 entry.2 agenda.entries = _
      rw [h, insertEntry_inOrder]
    have hall := ih hone
    rwa [List.append_assoc] at hall

theorem filter_inOrder (p : Int × τ → Bool) (entries : List (Int × τ)) :
    (inOrder entries).filter p = inOrder (entries.filter p) := by
  refine eq_of_entriesAt ((sorted_inOrder entries).filter p) (sorted_inOrder _) fun t => ?_
  have hcomm (l : List (Int × τ)) : entriesAt t (l.filter p) = (entriesAt t l).filter p := by
    unfold entriesAt
    simp only [List.filter_filter, Bool.and_comm]
  rw [entriesAt_inOrder, hcomm, entriesAt_inOrder, hcomm]

end Agenda

/-! ### What is still open -/

section Unsettled
variable {ρ β : Type} {opens : ρ → Option β} {closes : ρ → β → Bool}

/-- What requests opened and none after them closed, in the order it was opened. -/
def unsettled (opens : ρ → Option β) (closes : ρ → β → Bool) : List ρ → List β
  | [] => []
  | request :: later =>
    ((opens request).toList.filter fun b => !later.any (closes · b)) ++
      unsettled opens closes later

/-- The latest request closes some of what was open, and what it opens comes last. -/
theorem unsettled_snoc (requests : List ρ) (request : ρ) :
    unsettled opens closes (requests ++ [request]) =
      (unsettled opens closes requests).filter (!closes request ·) ++ (opens request).toList := by
  induction requests with
  | nil => simp [unsettled]
  | cons first rest ih =>
    have hfirst : ((opens first).toList.filter fun b => !(rest ++ [request]).any (closes · b)) =
        ((opens first).toList.filter fun b => !rest.any (closes · b)).filter
          (!closes request ·) := by
      simp only [List.filter_filter, List.any_append, List.any_cons, List.any_nil, Bool.or_false,
        Bool.not_or, Bool.and_comm]
    rw [List.cons_append, unsettled, unsettled, ih, hfirst, List.filter_append, List.append_assoc]

end Unsettled

/-! ### Histories -/

namespace Scheduler
variable {ε τ : Type}

/-- What is asked of a scheduler. -/
inductive Request (ε τ : Type)
  | schedule (tick : Int) (task : τ)
  | popDue (tick : Int)
  | scheduleOn (event : ε) (task : τ)
  | trigger (event : ε)

inductive Reply (τ : Type)
  | done
  | due (tasks : List τ)
  | released (tasks : List τ)

namespace Request

/-- The entry that goes onto the agenda. -/
def scheduled? : Request ε τ → Option (Int × τ)
  | schedule tick task => some (tick, task)
  | _ => none

/-- The entry that goes onto the waiting list. -/
def registered? : Request ε τ → Option (ε × τ)
  | scheduleOn event task => some (event, task)
  | _ => none

/-- Whether an entry on the agenda is taken off. -/
def takesOff : Request ε τ → Int × τ → Bool
  | popDue tick, entry => Agenda.isDue tick entry
  | _, _ => false

/-- Whether an entry on the waiting list is released. -/
def releases [DecidableEq ε] : Request ε τ → ε × τ → Bool
  | trigger event, entry => entry.1 = event
  | _, _ => false

end Request

namespace Reply

/-- The tasks that were taken off the agenda. -/
def tasksDue : Reply τ → List τ
  | due tasks => tasks
  | _ => []

/-- The tasks that were released from the waiting list. -/
def tasksReleased : Reply τ → List τ
  | released tasks => tasks
  | _ => []

end Reply

variable [DecidableEq ε]

/-- Does what a request asks for. -/
def answer (s : Scheduler ε τ) : Request ε τ → Reply τ × Scheduler ε τ
  | .schedule tick task => (.done, s.schedule tick task)
  | .popDue tick =>
    let (tasks, rest) := s.popDue tick
    (.due tasks, rest)
  | .scheduleOn event task => (.done, s.scheduleOn event task)
  | .trigger event =>
    let (tasks, rest) := s.trigger event
    (.released tasks, rest)

/-- Answers one request after another. -/
def answerAll (s : Scheduler ε τ) : List (Request ε τ) → List (Reply τ) × Scheduler ε τ
  | [] => ([], s)
  | request :: later =>
    let (reply, next) := s.answer request
    let (replies, last) := next.answerAll later
    (reply :: replies, last)

/-- The entries that were scheduled and not taken off since, as they were scheduled. -/
def unpopped (requests : List (Request ε τ)) : List (Int × τ) :=
  unsettled Request.scheduled? Request.takesOff requests

/-- The entries that were registered and not released since, as they were registered. -/
def unreleased (requests : List (Request ε τ)) : List (ε × τ) :=
  unsettled Request.registered? Request.releases requests

theorem answerAll_snoc (s : Scheduler ε τ) (requests : List (Request ε τ))
    (request : Request ε τ) :
    s.answerAll (requests ++ [request]) =
      let (replies, next) := s.answerAll requests
      let (reply, last) := next.answer request
      (replies ++ [reply], last) := by
  induction requests generalizing s with
  | nil => rfl
  | cons first rest ih => simp only [List.cons_append, answerAll, ih]

/-- A request does to the agenda what it does to the list of all that was not taken off. -/
theorem entries_answer {s : Scheduler ε τ} {entries : List (Int × τ)}
    (h : s.agenda.entries = Agenda.inOrder entries) (request : Request ε τ) :
    (s.answer request).2.agenda.entries = Agenda.inOrder
      (entries.filter (!request.takesOff ·) ++ request.scheduled?.toList) := by
  have hkept : entries.filter (fun _ => !false) = entries := by simp
  cases request with
  | schedule tick task =>
    show Agenda.insertEntry tick task s.agenda.entries =
      Agenda.inOrder (entries.filter (fun _ => !false) ++ [(tick, task)])
    rw [h, Agenda.insertEntry_inOrder, hkept]
  | popDue tick =>
    show (s.agenda.popDue tick).2.entries =
      Agenda.inOrder (entries.filter (!Agenda.isDue tick ·) ++ [])
    rw [(s.agenda.popDue_eq_filter tick).2, h, Agenda.filter_inOrder, List.append_nil]
  | scheduleOn event task =>
    show s.agenda.entries = Agenda.inOrder (entries.filter (fun _ => !false) ++ [])
    rw [h, hkept, List.append_nil]
  | trigger event =>
    show s.agenda.entries = Agenda.inOrder (entries.filter (fun _ => !false) ++ [])
    rw [h, hkept, List.append_nil]

theorem waiting_answer (s : Scheduler ε τ) (request : Request ε τ) :
    (s.answer request).2.waiting.entries =
      s.waiting.entries.filter (!request.releases ·) ++ request.registered?.toList := by
  have hkept : s.waiting.entries.filter (fun _ => !false) = s.waiting.entries := by
    simp
  cases request with
  | schedule tick task => exact (hkept.symm.trans (List.append_nil _).symm)
  | popDue tick => exact (hkept.symm.trans (List.append_nil _).symm)
  | scheduleOn event task =>
    show s.waiting.entries ++ [(event, task)] =
      s.waiting.entries.filter (fun _ => !false) ++ [(event, task)]
    rw [hkept]
  | trigger event =>
    show s.waiting.entries.filter (fun entry => decide (entry.1 ≠ event)) =
      s.waiting.entries.filter (fun entry => !decide (entry.1 = event)) ++ []
    simp only [decide_not, List.append_nil]

/-- What a request takes off the agenda, and what is left, is what there was and what it adds. -/
theorem due_answer (s : Scheduler ε τ) (request : Request ε τ) :
    ((s.answer request).1.tasksDue ++ (s.answer request).2.agenda.entries.map (·.2)).Perm
      (s.agenda.entries.map (·.2) ++ (request.scheduled?.map (·.2)).toList) := by
  cases request with
  | schedule tick task =>
    have hinsert := (Agenda.insertEntry_perm tick task s.agenda.entries).map (·.2)
    exact hinsert.trans (List.perm_append_singleton _ _).symm
  | popDue tick =>
    have hsplit := List.takeWhile_append_dropWhile (p := Agenda.isDue tick)
      (l := s.agenda.entries)
    refine .of_eq ?_
    show (s.agenda.entries.takeWhile _).map (·.2) ++ (s.agenda.entries.dropWhile _).map (·.2) =
      s.agenda.entries.map (·.2) ++ []
    rw [← List.map_append, hsplit, List.append_nil]
  | scheduleOn event task => exact .of_eq (List.append_nil _).symm
  | trigger event => exact .of_eq (List.append_nil _).symm

theorem released_answer (s : Scheduler ε τ) (request : Request ε τ) :
    ((s.answer request).1.tasksReleased ++ (s.answer request).2.waiting.entries.map (·.2)).Perm
      (s.waiting.entries.map (·.2) ++ (request.registered?.map (·.2)).toList) := by
  cases request with
  | schedule tick task => exact .of_eq (List.append_nil _).symm
  | popDue tick => exact .of_eq (List.append_nil _).symm
  | scheduleOn event task => exact .of_eq (List.map_append)
  | trigger event =>
    have hsplit := List.filter_append_perm (fun entry : ε × τ => decide (entry.1 = event))
      s.waiting.entries
    have hperm := hsplit.map (·.2)
    rw [List.map_append] at hperm
    simpa [answer, trigger, Waiting.release, Waiting.tasksOf, Reply.tasksReleased,
      Request.registered?] using hperm

/-! ### What a history tells -/

/-- What a history of requests tells of the replies and of the scheduler in the end. -/
structure Told (requests : List (Request ε τ)) (replies : List (Reply τ)) (s : Scheduler ε τ) :
    Prop where
  agenda : s.agenda.entries = Agenda.inOrder (unpopped requests)
  nextTick : s.agenda.nextTick? = (Agenda.inOrder (unpopped requests)).head?.map (·.1)
  waiting : s.waiting.entries = unreleased requests
  /-- Every task that was scheduled was taken off once, or is still there once. -/
  due_once : (replies.flatMap Reply.tasksDue ++ s.agenda.entries.map (·.2)).Perm
    ((requests.filterMap Request.scheduled?).map (·.2))
  released_once : (replies.flatMap Reply.tasksReleased ++ s.waiting.entries.map (·.2)).Perm
    ((requests.filterMap Request.registered?).map (·.2))
  popDue : ∀ tick,
    (s.popDue tick).1 = (s.agenda.entries.filter (Agenda.isDue tick)).map (·.2) ∧
      (s.popDue tick).2.agenda.entries = s.agenda.entries.filter (!Agenda.isDue tick ·) ∧
      (s.popDue tick).2.waiting = s.waiting
  trigger : ∀ event,
    (s.trigger event).1 = ((unreleased requests).filter (·.1 = event)).map (·.2) ∧
      (s.trigger event).2.waiting.entries = (unreleased requests).filter (·.1 ≠ event) ∧
      (s.trigger event).2.agenda = s.agenda

/-- The tasks in the end, and those that were handed out, are those that came in. -/
theorem perm_answerAll (tasks : Scheduler ε τ → List τ) (out : Reply τ → List τ)
    (in? : Request ε τ → Option τ)
    (hanswer : ∀ s request, (out (s.answer request).1 ++ tasks (s.answer request).2).Perm
      (tasks s ++ (in? request).toList)) (s : Scheduler ε τ) (requests : List (Request ε τ)) :
    ((s.answerAll requests).1.flatMap out ++ tasks (s.answerAll requests).2).Perm
      (tasks s ++ requests.filterMap in?) := by
  induction requests generalizing s with
  | nil => simp [answerAll]
  | cons request later ih =>
    have hcons : (request :: later).filterMap in? =
        (in? request).toList ++ later.filterMap in? := by
      cases h : in? request <;> simp [h]
    have hlater := (ih (s.answer request).2).append_left (out (s.answer request).1)
    have hfirst := (hanswer s request).append_right (later.filterMap in?)
    rw [← List.append_assoc, ← List.append_assoc] at hlater
    rw [hcons, ← List.append_assoc]
    exact hlater.trans hfirst

theorem agenda_answerAll (requests : List (Request ε τ)) :
    ((empty : Scheduler ε τ).answerAll requests).2.agenda.entries =
      Agenda.inOrder (unpopped requests) := by
  induction requests using List.reverseRecOn with
  | nil => exact List.mergeSort_nil.symm
  | append_singleton requests request ih =>
    rw [answerAll_snoc, unpopped, unsettled_snoc]
    exact entries_answer ih request

theorem waiting_answerAll (requests : List (Request ε τ)) :
    ((empty : Scheduler ε τ).answerAll requests).2.waiting.entries = unreleased requests := by
  induction requests using List.reverseRecOn with
  | nil => rfl
  | append_singleton requests request ih =>
    rw [answerAll_snoc, unreleased, unsettled_snoc]
    show (answer _ request).2.waiting.entries = _
    rw [waiting_answer, ih]
    rfl

/-- Whatever is asked of a scheduler in whatever order, the history tells what it holds and what
it hands out. -/
theorem told_answerAll (requests : List (Request ε τ)) :
    let (replies, s) := (empty : Scheduler ε τ).answerAll requests
    Told requests replies s := by
  have hagenda := agenda_answerAll requests
  have hwaiting := waiting_answerAll requests
  have hdue := perm_answerAll (·.agenda.entries.map (·.2)) Reply.tasksDue
    (·.scheduled?.map (·.2)) due_answer empty requests
  have hreleased := perm_answerAll (·.waiting.entries.map (·.2)) Reply.tasksReleased
    (·.registered?.map (·.2)) released_answer empty requests
  generalize (empty : Scheduler ε τ).answerAll requests = answered at *
  obtain ⟨replies, s⟩ := answered
  refine ⟨hagenda, ?_, hwaiting, ?_, ?_, fun tick => ?_, fun event => ?_⟩
  · rw [Agenda.nextTick?, hagenda]
  · rw [List.map_filterMap]
    exact hdue
  · rw [List.map_filterMap]
    exact hreleased
  · obtain ⟨htasks, hrest⟩ := s.agenda.popDue_eq_filter tick
    exact ⟨htasks, hrest, rfl⟩
  · rw [← hwaiting]
    exact ⟨rfl, rfl, rfl⟩

end Scheduler
end WandArena
