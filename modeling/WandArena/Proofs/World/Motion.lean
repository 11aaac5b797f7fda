import WandArena.Proofs.Run.Safe
import WandArena.Proofs.World.Census

/-! Turning and bouncing stop for arithmetic alone, and leave the census as it is. -/
namespace WandArena.World
variable {α : Type} [Scalar α] {stops : Fault → Prop}

theorem turn_safe (hnumber : ∀ fault, stops (.number fault)) (census : Census α) :
    Run.Safe (fun w => w.census = census) stops (turn : Run (World α) Unit) := by
  have hone (id : Int) : Run.Safe (fun _ => True) stops (turnOne id : Run (World α) Unit) := by
    refine .get_bind fun w _ => ?_
    split
    · exact .number_bind hnumber fun _ _ => trivial
    · trivial
  have hall : Run.Safe (fun _ => True) stops (turn : Run (World α) Unit) :=
    .get_bind fun w hw => Run.Safe.forM (fun id _ => hone id) w hw
  exact fun w hw => .of_keeps turn_keeps (fun _ hsame => hsame.trans hw) (hall w trivial)

theorem reflect_safe (hnumber : ∀ fault, stops (.number fault)) (axis : Axis) (size id : Int) :
    Run.Safe (fun _ => True) stops (reflect axis size id : Run (World α) Unit) := by
  refine .bind (.modify fun _ _ => trivial) fun _ => .get_bind fun w _ => ?_
  split
  · exact .number_bind hnumber fun _ _ => trivial
  · trivial

theorem bounceOne_safe (hnumber : ∀ fault, stops (.number fault)) (width height id : Int) :
    Run.Safe (fun _ => True) stops (bounceOne width height id : Run (World α) Bool) := by
  have hface {f : World α → World α} (b : Bool) :
      Run.Safe (fun _ => True) stops (do modify f; return b : Run (World α) Bool) :=
    fun _ _ => trivial
  have hreflect (c : Bool) (axis : Axis) (size : Int) {rest : Run (World α) Bool}
      (hrest : Run.Safe (fun _ => True) stops rest) : Run.Safe (fun _ => True) stops
        (do if c = true then reflect axis size id
            rest) := by
    cases c with
    | true => exact .bind (reflect_safe hnumber axis size id) fun _ => hrest
    | false => exact hrest
  refine .get_bind fun w _ => ?_
  split
  · dsimp only
    split
    · trivial
    · split
      · trivial
      · exact .set_bind trivial (hreflect _ _ _ (hreflect _ _ _ (hface _)))
  · trivial

theorem bounce_safe (hnumber : ∀ fault, stops (.number fault)) (census : Census α)
    (width height : Int) : Run.Safe (fun w => w.census = census) stops
      (bounce width height : Run (World α) (List Int)) := by
  have hall : Run.Safe (fun _ => True) stops (bounce width height : Run (World α) (List Int)) :=
    .get_bind fun w hw => Run.Safe.filterM (bounceOne_safe hnumber width height) _ w hw
  exact fun w hw => .of_keeps (bounce_keeps width height) (fun _ hsame => hsame.trans hw)
    (hall w trivial)

end WandArena.World
