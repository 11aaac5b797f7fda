import WandArena.Schedule.Agenda

/-! Which tasks of some sort an agenda holds.

Scheduling adds the task to them (`scheduleAll` for many), and what is taken off as due and what
stays add up to what there was. -/
namespace WandArena.Agenda
variable {τ : Type}

/-- The number of scheduled tasks of a sort. -/
def pending (agenda : Agenda τ) (sort : τ → Bool) : Nat :=
  agenda.entries.countP fun entry => sort entry.2

/-- The ticks for which tasks of a sort are scheduled. -/
def ticks (agenda : Agenda τ) (sort : τ → Bool) : List Int :=
  (agenda.entries.filter fun entry => sort entry.2).map (·.1)

theorem insertEntry_perm (tick : Int) (task : τ) (entries : List (Int × τ)) :
    (insertEntry tick task entries).Perm ((tick, task) :: entries) := by
  induction entries with
  | nil => exact .refl _
  | cons entry rest ih =>
    unfold insertEntry
    split
    · exact (ih.cons entry).trans (.swap _ _ _)
    · exact .refl _

theorem eq_of_entries {agenda agenda' : Agenda τ} (h : agenda.entries = agenda'.entries) :
    agenda = agenda' := by
  cases agenda
  cases agenda'
  cases h
  rfl

/-- Schedules one task after another. -/
def scheduleAll (agenda : Agenda τ) (entries : List (Int × τ)) : Agenda τ :=
  entries.foldl (fun agenda entry => agenda.schedule entry.1 entry.2) agenda

theorem scheduleAll_append (agenda : Agenda τ) (entries later : List (Int × τ)) :
    agenda.scheduleAll (entries ++ later) = (agenda.scheduleAll entries).scheduleAll later :=
  List.foldl_append

/-- No task that is scheduled is lost. -/
theorem scheduleAll_perm (agenda : Agenda τ) (entries : List (Int × τ)) :
    (agenda.scheduleAll entries).entries.Perm (agenda.entries ++ entries) := by
  induction entries generalizing agenda with
  | nil => rw [List.append_nil]; exact .refl _
  | cons entry rest ih =>
    have hone : ((agenda.schedule entry.1 entry.2).entries ++ rest).Perm
        (entry :: agenda.entries ++ rest) :=
      (insertEntry_perm entry.1 entry.2 agenda.entries).append_right rest
    exact ((ih _).trans hone).trans List.perm_middle.symm

theorem pending_schedule (agenda : Agenda τ) (tick : Int) (task : τ) (sort : τ → Bool) :
    (agenda.schedule tick task).pending sort =
      agenda.pending sort + if sort task then 1 else 0 := by
  have hinsert := insertEntry_perm tick task agenda.entries
  rw [pending, schedule, hinsert.countP_eq, List.countP_cons]
  rfl

theorem ticks_schedule (agenda : Agenda τ) (tick : Int) (task : τ) (sort : τ → Bool) :
    ((agenda.schedule tick task).ticks sort).Perm
      (if sort task then tick :: agenda.ticks sort else agenda.ticks sort) := by
  have hinsert := insertEntry_perm tick task agenda.entries
  refine ((hinsert.filter fun entry => sort entry.2).map (·.1)).trans (.of_eq ?_)
  rw [List.filter_cons]
  split <;> rfl

/-- Tasks of a sort that are scheduled together with others. -/
theorem ticks_scheduleAll (agenda : Agenda τ) (entries : List (Int × τ)) (sort : τ → Bool) :
    ((agenda.scheduleAll entries).ticks sort).Perm
      (agenda.ticks sort ++ (entries.filter fun entry => sort entry.2).map (·.1)) := by
  have hall := ((agenda.scheduleAll_perm entries).filter fun entry => sort entry.2).map (·.1)
  rw [List.filter_append, List.map_append] at hall
  exact hall

/-- What is taken off as due and what stays are the tasks that there were. -/
theorem tasks_popDue (agenda : Agenda τ) (tick : Int) :
    (agenda.popDue tick).1 ++ (agenda.popDue tick).2.entries.map (·.2) =
      agenda.entries.map (·.2) := by
  rw [popDue, ← List.map_append, List.takeWhile_append_dropWhile]

/-- No task is lost or doubled when the due ones are taken off. -/
theorem pending_popDue (agenda : Agenda τ) (tick : Int) (sort : τ → Bool) :
    (agenda.popDue tick).1.countP sort + (agenda.popDue tick).2.pending sort =
      agenda.pending sort := by
  have hpending (a : Agenda τ) : a.pending sort = (a.entries.map (·.2)).countP sort :=
    List.countP_map.symm
  rw [hpending, hpending, ← agenda.tasks_popDue tick, List.countP_append]

/-- What stays when the due tasks are taken off is what is scheduled for later. -/
theorem ticks_popDue (agenda : Agenda τ) (tick : Int) (sort : τ → Bool) :
    (agenda.popDue tick).2.ticks sort = (agenda.ticks sort).filter fun t => decide (tick < t) := by
  rw [ticks, (popDue_eq_filter agenda tick).2, ticks, List.filter_map, List.filter_filter,
    List.filter_filter]
  congr 1
  refine List.filter_congr fun entry _ => ?_
  simp only [isDue, Function.comp_apply, ← decide_not, Int.not_le, Bool.and_comm]

/-- The tasks that are taken off are those for this tick and for past ones. -/
theorem countP_popDue (agenda : Agenda τ) (tick : Int) (sort : τ → Bool) :
    (agenda.popDue tick).1.countP sort = (agenda.ticks sort).countP fun t => decide (t ≤ tick) := by
  rw [(popDue_eq_filter agenda tick).1, ticks, List.countP_map, List.countP_map,
    List.countP_filter, List.countP_filter]
  refine List.countP_congr fun entry _ => ?_
  simp only [isDue, Function.comp_apply, Bool.and_comm]

end WandArena.Agenda
