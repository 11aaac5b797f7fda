import WandArena.Catalog
import WandArena.Palette

/-! The standard catalog: the cards, wands and blueprints that come with the arena. -/
namespace WandArena.Catalog
variable {α : Type} [Scalar α]

private def whole (n : Int) : α := Quantity.whole n

private def ticks (low high : Int) : Option (Span α) :=
  some { low := whole low, high := whole high }

def standardBlueprints : Registry (Blueprint α) :=
  .ofList <| List.map (fun b => (b.id, b)) [
    { id := "spark", glyph := "•", color := Palette.cyan
      stats := { damage := some (whole 3), speed := some 1.0, lifetime := ticks 30 40 } },
    { id := "missile", glyph := "◆", color := Palette.magenta
      stats := { damage := some (whole 10), speed := some 0.6, spread := some 0.05
                 lifetime := ticks 60 80 } },
    { id := "bubble", glyph := "o", color := Palette.green
      stats := { damage := some (whole 2), speed := some 0.5, spread := some 0.2
                 bounces := some 3, lifetime := ticks 90 120 } },
    { id := "orb", glyph := "◉", color := Palette.red
      stats := { damage := some (whole 60), speed := some 0.3, lifetime := ticks 120 120 } }]

/-- A multicast offset that only turns. -/
private def turned (direction : α) : Transform α := ⟨Vec.zero, direction⟩

/-- A multicast offset that only moves sideways. -/
private def shifted (y : α) : Transform α := ⟨⟨0.0, y⟩, 0.0⟩

def standardCards : Registry (Card α) :=
  .ofList <| List.map (fun c => (c.id, c)) [
    -- Projectiles
    { id := "spark_bolt", name := "Spark Bolt", symbol := "•", manaCost := 5, castDelay := 3
      effects := [.projectile "spark" .normal] },
    { id := "magic_missile", name := "Magic Missile", symbol := "◆", manaCost := 15, castDelay := 10
      effects := [.projectile "missile" .normal] },
    { id := "bubble", name := "Bouncing Bubble", symbol := "o", manaCost := 5, castDelay := -2
      effects := [.projectile "bubble" .normal] },
    { id := "dead_weight", name := "Dead Weight", symbol := "◉", manaCost := 500, castDelay := 20
      rechargeDelay := 20, effects := [.projectile "orb" .normal] },
    { id := "spark_trigger", name := "Spark Bolt With Trigger", symbol := "•→", manaCost := 10
      castDelay := 3, effects := [.projectile "spark" .trigger] },
    { id := "missile_timer", name := "Magic Missile With Timer", symbol := "◆⌚", manaCost := 20
      castDelay := 10, effects := [.projectile "missile" (.timer 20)] },
    -- Multicasts
    { id := "double_spell", name := "Double Spell", symbol := "2x"
      effects := [.multicast [.identity, .identity]] },
    { id := "triple_scatter", name := "Triple Scatter", symbol := "3∴", manaCost := 2
      effects := [.multicast [turned (-Scalar.pi / whole 12), .identity,
        turned (Scalar.pi / whole 12)]] },
    { id := "side_arms", name := "Side Arms", symbol := "⇅", manaCost := 4
      effects := [.multicast [shifted (-1.0), shifted 1.0]] },
    -- Modifiers
    { id := "damage_plus", name := "Damage Plus", symbol := "+d", manaCost := 5, castDelay := 5
      effects := [.modifier { damage := some (whole 10) }] },
    { id := "speed_up", name := "Speed Up", symbol := ">>", manaCost := 3
      effects := [.modifier { speed := some 0.5 }] },
    { id := "focus", name := "Focus", symbol := "-∠", manaCost := 2
      effects := [.modifier { spread := some (-0.2) }] },
    { id := "bouncy", name := "Bouncy", symbol := "↷", manaCost := 2
      effects := [.modifier { bounces := some 2 }] },
    { id := "linger", name := "Linger", symbol := "⌛", manaCost := 3, rechargeDelay := 5
      effects := [.modifier { lifetime := ticks 20 40 }] },
    { id := "eternity", name := "Eternity", symbol := "∞", manaCost := 60, rechargeDelay := 30
      effects := [.modifier { lifetime := some Stats.endless }] }]

def standardWands : Registry (Wand α) :=
  .ofList <| List.map (fun w => (w.id, w)) [
    { id := "starter", name := "Starter Wand"
      cards := ["spark_bolt", "spark_bolt", "spark_bolt"]
      maxMana := 40, manaRecharge := 0.5, castDelay := 6, rechargeDelay := 25, spread := 0.05 },
    { id := "scatter", name := "Scattergun"
      cards := ["triple_scatter", "spark_bolt", "spark_bolt", "spark_bolt", "speed_up",
        "magic_missile"]
      maxMana := 60, manaRecharge := 0.8, castDelay := 8, rechargeDelay := 30, spread := 0.1 },
    { id := "chain", name := "Chain Caster"
      cards := ["spark_trigger", "double_spell", "spark_bolt", "spark_bolt", "missile_timer",
        "bubble"]
      maxMana := 80, manaRecharge := 1.0, castDelay := 10, rechargeDelay := 40
      spread := 0.0 },
    { id := "heavy", name := "Overloaded Staff"
      cards := ["dead_weight", "damage_plus", "magic_missile"]
      maxMana := 100, manaRecharge := 1.5, castDelay := 12, rechargeDelay := 35
      spread := 0.0 },
    { id := "bouncer", name := "Rubber Rod"
      cards := ["bouncy", "side_arms", "bubble", "bubble", "focus", "bubble"]
      maxMana := 50, manaRecharge := 0.6, castDelay := 5, rechargeDelay := 20, spread := 0.15 },
    { id := "wisp", name := "Wisp Maker"
      cards := ["eternity", "linger", "spark_bolt"]
      maxMana := 70, manaRecharge := 0.4, castDelay := 15, rechargeDelay := 60
      spread := 0.0 }]

def standard : Catalog α := ⟨standardCards, standardWands, standardBlueprints⟩

end WandArena.Catalog
