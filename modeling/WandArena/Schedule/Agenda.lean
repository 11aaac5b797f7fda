/-! Agendas: tasks due at a tick.

An agenda keeps its entries in delivery order: earlier ticks first, and within a tick
in the order of scheduling. Taking what is due at a tick takes an initial stretch of
that list (`popDue_eq_filter`): exactly the entries due at or before it. -/
namespace WandArena

structure Agenda (τ : Type) where
  /-- The pending entries in delivery order. -/
  entries : List (Int × τ)
  sorted : entries.Pairwise (fun a b => a.1 ≤ b.1)

namespace Agenda
variable {τ : Type}

def empty : Agenda τ := ⟨[], .nil⟩

def size (agenda : Agenda τ) : Nat := agenda.entries.length

/-- The tick of the first entry. -/
def nextTick? (agenda : Agenda τ) : Option Int := agenda.entries.head?.map (·.1)

/-- Puts an entry behind all that are due no later. -/
def insertEntry (tick : Int) (task : τ) : List (Int × τ) → List (Int × τ)
  | [] => [(tick, task)]
  | entry :: rest =>
    if entry.1 ≤ tick then entry :: insertEntry tick task rest else (tick, task) :: entry :: rest

theorem mem_insertEntry {tick : Int} {task : τ} {entries : List (Int × τ)} {e : Int × τ} :
    e ∈ insertEntry tick task entries ↔ e = (tick, task) ∨ e ∈ entries := by
  induction entries with
  | nil => simp [insertEntry]
  | cons entry rest ih =>
    unfold insertEntry
    split
    · simp only [List.mem_cons, ih]
      constructor
      · rintro (h | h | h) <;> simp [h]
      · rintro (h | h | h) <;> simp [h]
    · simp

theorem sorted_insertEntry (tick : Int) (task : τ) {entries : List (Int × τ)}
    (h : entries.Pairwise (fun a b => a.1 ≤ b.1)) :
    (insertEntry tick task entries).Pairwise (fun a b => a.1 ≤ b.1) := by
  induction entries with
  | nil => simp [insertEntry]
  | cons entry rest ih =>
    obtain ⟨hfirst, hrest⟩ := List.pairwise_cons.1 h
    unfold insertEntry
    split
    case isTrue hle =>
      refine List.pairwise_cons.2 ⟨fun e he => ?_, ih hrest⟩
      rcases mem_insertEntry.1 he with rfl | he
      · exact hle
      · exact hfirst e he
    case isFalse hgt =>
      refine List.pairwise_cons.2 ⟨fun e he => ?_, h⟩
      rcases List.mem_cons.1 he with rfl | he
      · show tick ≤ e.1
        omega
      · have := hfirst e he
        show tick ≤ e.1
        omega

/-- Schedules a task for a tick, which may be past. -/
def schedule (agenda : Agenda τ) (tick : Int) (task : τ) : Agenda τ :=
  ⟨insertEntry tick task agenda.entries, sorted_insertEntry tick task agenda.sorted⟩

/-- Whether an entry is due at a tick. -/
def isDue (tick : Int) (entry : Int × τ) : Bool := decide (entry.1 ≤ tick)

/-- The tasks due at or before a tick, in delivery order, and the agenda without them. -/
def popDue (agenda : Agenda τ) (tick : Int) : List τ × Agenda τ :=
  ((agenda.entries.takeWhile (isDue tick)).map (·.2),
    ⟨agenda.entries.dropWhile (isDue tick),
      agenda.sorted.sublist (List.dropWhile_sublist _)⟩)

/-- What is due is exactly what is due at or before the tick, and all else stays. -/
theorem popDue_eq_filter (agenda : Agenda τ) (tick : Int) :
    (agenda.popDue tick).1 = (agenda.entries.filter (isDue tick)).map (·.2) ∧
      (agenda.popDue tick).2.entries = agenda.entries.filter (fun e => !isDue tick e) := by
  obtain ⟨entries, sorted⟩ := agenda
  induction entries with
  | nil => simp [popDue]
  | cons entry rest ih =>
    obtain ⟨hfirst, hrest⟩ := List.pairwise_cons.1 sorted
    obtain ⟨htaken, hleft⟩ := ih hrest
    simp only [popDue] at htaken hleft ⊢
    by_cases h : isDue tick entry = true
    · simp [h, htaken, hleft]
    · have hall : ∀ e ∈ rest, isDue tick e = false := by
        intro e he
        have := hfirst e he
        simp only [isDue, decide_eq_true_eq, Int.not_le, decide_eq_false_iff_not] at h ⊢
        omega
      have hnone : rest.filter (isDue tick) = [] :=
        List.filter_eq_nil_iff.2 fun e he => by simp [hall e he]
      have hkeep : rest.filter (fun e => !isDue tick e) = rest :=
        List.filter_eq_self.2 fun e he => by simp [hall e he]
      simp [h, hnone, hkeep]

end Agenda
end WandArena
