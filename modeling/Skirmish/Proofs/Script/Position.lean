import Skirmish.Script.Scan

/-!
# The positions of tokens

Reading goes forward: every character lies behind those before it, so the tokens of a text have
positions that strictly increase (`pairwise_scanFrom`).
-/

namespace Skirmish.Script

namespace Pos

/-- One position comes before another. -/
def Before (p q : Pos) : Prop := p.line < q.line ∨ (p.line = q.line ∧ p.column < q.column)

variable {p q r : Pos}

theorem Before.trans (h : p.Before q) (h' : q.Before r) : p.Before r := by
  unfold Before at *
  omega

theorem Before.ne (h : p.Before q) : p ≠ q := by
  rintro rfl
  unfold Before at h
  omega

theorem before_after (p : Pos) (c : Char) : p.Before (p.after c) := by
  unfold Before after
  split
  · exact .inl (Nat.lt_succ_self _)
  · exact .inr ⟨rfl, Nat.lt_succ_self _⟩

theorem before_afterAll (h : p.Before q) (cs : List Char) : p.Before (q.afterAll cs) := by
  induction cs generalizing q with
  | nil => exact h
  | cons c cs ih => exact ih (h.trans (before_after q c))

end Pos

/-- What is read of a text lies behind what was read before, from token to token. -/
theorem pairwise_scanFrom {pos : Pos} {cs : List Char} {input : TokenList}
    (h : scanFrom pos cs = .ok input) :
    (input.tokens.map Token.pos).Pairwise Pos.Before ∧
      ∀ before : Pos, before.Before pos → ∀ t ∈ input.tokens, before.Before t.pos := by
  fun_induction scanFrom pos cs generalizing input with
  | case1 =>
    cases h
    exact ⟨.nil, nofun⟩
  | case2 => cases h
  | case3 pos cs skipped start c rest hrest shorter lex used hlex =>
    rename_i ih
    cases hmore : scanFrom ((start.after c).afterAll (rest.take used)) (rest.drop used) with
    | error e =>
      rw [hmore] at h
      cases h
    | ok more =>
      rw [hmore] at h
      cases h
      obtain ⟨hpairwise, hbehind⟩ := ih hmore
      have hfirst := hbehind start (Pos.before_afterAll (Pos.before_after start c) _)
      refine ⟨?_, fun before hbefore t ht => ?_⟩
      · rw [List.map_cons, List.pairwise_cons]
        exact ⟨List.forall_mem_map.2 hfirst, hpairwise⟩
      · have hstart : before.Before start := Pos.before_afterAll hbefore _
        obtain rfl | ht := List.mem_cons.1 ht
        · exact hstart
        · exact hstart.trans (hfirst t ht)

/-- No two tokens of a text have the same position. -/
theorem nodup_scan {text : String} {input : TokenList} (h : scan text = .ok input) :
    (input.tokens.map Token.pos).Nodup :=
  (pairwise_scanFrom h).1.imp Pos.Before.ne

end Skirmish.Script
