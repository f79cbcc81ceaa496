import Mathlib.Data.Nat.ModEq
import Skirmish.Proofs.Script.Draws

/-!
# Seeds of rolls

A seed mixes the numbers it is made from by steps that can be undone: a product with an odd
constant, an exclusive or with what stays the same, and the folding of a word. So it tells each of
these numbers if the others are known (`Roll.seed_injective`): a script that runs once draws no roll
twice (`Script.nodup_seeds_step`), and a defender none at two counts of one turn
(`Combat.evasionSeed_ne`).
-/

namespace Skirmish

namespace Roll

/-! ## Steps that can be undone -/

/-- An odd factor has no divisor in common with the modulus of words. -/
theorem mul_injective {c : UInt64} (hodd : c.toNat % 2 = 1) :
    Function.Injective fun a => a * c := by
  intro a b h
  have hcoprime : Nat.Coprime (2 ^ 64) c.toNat := by
    refine Nat.Coprime.pow_left 64 ?_
    rw [Nat.coprime_iff_gcd_eq_one, Nat.gcd_rec, hodd]
    rfl
  have hproduct : a.toNat * c.toNat % 2 ^ 64 = b.toNat * c.toNat % 2 ^ 64 := by
    rw [← UInt64.toNat_mul, ← UInt64.toNat_mul]
    exact congrArg UInt64.toNat h
  have hsame : a.toNat ≡ b.toNat [MOD 2 ^ 64] := Nat.ModEq.cancel_right_of_coprime hcoprime hproduct
  exact UInt64.toNat_inj.1 (hsame.eq_of_lt_of_lt a.toNat_lt b.toNat_lt)

/-- The upper half of a word is left as it is, so folding the word again takes it out of the lower
half. -/
theorem fold_fold (h : UInt64) : fold (fold h) = h := by
  have hupper : h >>> 33 >>> 33 = 0 := by
    rw [← UInt64.toNat_inj, UInt64.toNat_shiftRight, UInt64.toNat_shiftRight, ← Nat.shiftRight_add]
    exact Nat.shiftRight_eq_zero _ _ (Nat.lt_of_lt_of_le h.toNat_lt (by decide))
  rw [fold, fold, UInt64.shiftRight_xor, hupper, UInt64.xor_zero, UInt64.xor_assoc, UInt64.xor_self,
    UInt64.xor_zero]

theorem fold_injective : Function.Injective fold :=
  Function.LeftInverse.injective fold_fold

/-- The numbers that a seed is made from, mixed. -/
def blend (game turn stream counter : UInt64) (purpose : Purpose) : UInt64 :=
  game ^^^ turn * 0x9e3779b97f4a7c15 ^^^ stream * 0x517cc1b727220a95 ^^^ counter * 0x85ebca6b ^^^
    purpose.salt * 0xc2b2ae3d27d4eb4f

/-- A seed tells the mixture it was made from. -/
theorem blend_eq_of_seed_eq {game turn stream counter game' turn' stream' counter' : UInt64}
    {purpose purpose' : Purpose}
    (h : seed game turn stream counter purpose = seed game' turn' stream' counter' purpose') :
    blend game turn stream counter purpose = blend game' turn' stream' counter' purpose' :=
  fold_injective (mul_injective (by decide) (fold_injective h))

/-! ## The numbers of a seed -/

section Seed

variable (game turn stream counter : UInt64) (purpose : Purpose)

theorem game_injective : Function.Injective fun g => seed g turn stream counter purpose := by
  intro g g' h
  simpa only [blend, UInt64.xor_left_inj] using blend_eq_of_seed_eq h

theorem turn_injective : Function.Injective fun t => seed game t stream counter purpose := by
  intro t t' h
  have hproduct : t * 0x9e3779b97f4a7c15 = t' * 0x9e3779b97f4a7c15 := by
    simpa only [blend, UInt64.xor_left_inj, UInt64.xor_right_inj] using blend_eq_of_seed_eq h
  exact mul_injective (by decide) hproduct

theorem stream_injective : Function.Injective fun s => seed game turn s counter purpose := by
  intro s s' h
  have hproduct : s * 0x517cc1b727220a95 = s' * 0x517cc1b727220a95 := by
    simpa only [blend, UInt64.xor_left_inj, UInt64.xor_right_inj] using blend_eq_of_seed_eq h
  exact mul_injective (by decide) hproduct

theorem counter_injective : Function.Injective fun n => seed game turn stream n purpose := by
  intro n n' h
  have hproduct : n * 0x85ebca6b = n' * 0x85ebca6b := by
    simpa only [blend, UInt64.xor_left_inj, UInt64.xor_right_inj] using blend_eq_of_seed_eq h
  exact mul_injective (by decide) hproduct

/-- Seeds of one purpose that agree in three of the numbers they are made from differ if the fourth
does. -/
theorem seed_injective :
    Function.Injective (fun g => seed g turn stream counter purpose) ∧
    Function.Injective (fun t => seed game t stream counter purpose) ∧
    Function.Injective (fun s => seed game turn s counter purpose) ∧
    Function.Injective (fun n => seed game turn stream n purpose) :=
  ⟨game_injective .., turn_injective .., stream_injective .., counter_injective ..⟩

end Seed

end Roll

/-! ## The rolls of a script -/

namespace Script

theorem nodup_nextSeeds (w : World) {n : Nat} (hn : n ≤ 2 ^ 64) : (nextSeeds w n).Nodup := by
  refine List.Nodup.map_on (fun k hk k' hk' h => ?_) List.nodup_range
  have hcounter : UInt64.ofNat k = UInt64.ofNat k' :=
    (UInt64.add_right_inj _).1 (Roll.counter_injective _ _ _ _ h)
  have hvalue := congrArg UInt64.toNat hcounter
  rw [UInt64.toNat_ofNat_of_lt' (Nat.lt_of_lt_of_le (List.mem_range.1 hk) hn),
    UInt64.toNat_ofNat_of_lt' (Nat.lt_of_lt_of_le (List.mem_range.1 hk') hn)] at hvalue
  exact hvalue

/-- A script that runs once draws no roll twice. -/
theorem nodup_seeds_step (s : Script) (rules : Rules) (b : Bindings) (w : World)
    (room : w.rolls.toNat + (stmtsDeeds rules s.stmts b w).countP Deed.isOpen < 2 ^ 64) :
    ((stmtsDeeds rules s.stmts b w).filterMap Deed.seed?).Nodup := by
  rw [((leads_step s rules b w).draws room).1]
  exact nodup_nextSeeds w (by omega)

end Script

/-! ## The rolls of a defender -/

namespace Combat

/-- In one turn a defender does not roll again what it rolled at another count. -/
theorem evasionSeed_ne {w w' : World} (hseed : w.seed = w'.seed) (hturn : w.turn = w'.turn)
    (id : String) {unit unit' : Bag}
    (h : Saturating.toUInt64 (unit.int Stat.evadeRolls) ≠
      Saturating.toUInt64 (unit'.int Stat.evadeRolls)) :
    evasionSeed w id unit ≠ evasionSeed w' id unit' := by
  rw [evasionSeed, evasionSeed, hseed, hturn]
  exact (Roll.counter_injective ..).ne h

end Combat

end Skirmish
