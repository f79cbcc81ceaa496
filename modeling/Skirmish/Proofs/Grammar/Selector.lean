import Skirmish.Proofs.Grammar.Condition

/-!
# Reading selectors back

A selector is its pool with one modifier after the other put on it (`Modifier.put`). Modifiers of
different kinds do not meet, so whatever the order of the kinds is, the selector that is read is the
one that was written (`reads_selector`).
-/

namespace Skirmish.Script

open Script.Parser

variable {style : Style} {levels : Nat}

/-! ## Options -/

theorem reads_named {α : Type} {what : String} {ofName? : String → Option α} {w : String} {a : α}
    (h : ofName? w = some a) : Reads (named what ofName?) [.word w] Any (· = a) := by
  refine .here fun pos => .bind_cons (.take rfl) ?_
  rw [h]
  exact .pure rfl

theorem reads_direction (d : Direction) : Reads direction (Style.direction d) Any (· = d) :=
  reads_named (by cases d <;> decide +kernel)

section Options

variable {σ : Type} {options : List (String × (σ → Parser σ))}

/-- The option that a lexeme begins. -/
def optionOf? (options : List (String × (σ → Parser σ))) (l : Lexeme) :
    Option (String × (σ → Parser σ)) :=
  options.find? fun o => l = .word o.1

/-- An option as it is written: its word, what stands behind the word, and what it does. -/
structure Part (σ : Type) where
  word : String
  lexemes : List Lexeme
  effect : σ → σ

def Part.all (part : Part σ) : List Lexeme := .word part.word :: part.lexemes

/-- The parser of the option that a part begins reads the part. -/
def Part.Fits (options : List (String × (σ → Parser σ))) (part : Part σ) : Prop :=
  ∃ o, optionOf? options (.word part.word) = some o ∧
    ∀ s, Reads (o.2 s) part.lexemes EndsExpr (· = part.effect s)

/-- Nothing follows that goes on with an expression or is an option. -/
def EndsOptions (options : List (String × (σ → Parser σ))) (ms : List Lexeme) : Prop :=
  EndsExpr ms ∧ ms.head?.bind (optionOf? options) = none

theorem reads_optionsOf {parts : List (Part σ)} (h : ∀ part ∈ parts, part.Fits options) (s : σ) :
    Reads (optionsOf options s) (parts.flatMap Part.all) (EndsOptions options)
      (· = parts.foldl (fun s part => part.effect s) s) := by
  let I (ls : List Lexeme) (t : σ) : Prop :=
    ∃ left : List (Part σ), (∀ part ∈ left, part.Fits options) ∧ ls = left.flatMap Part.all ∧
      left.foldl (fun s part => part.effect s) t = parts.foldl (fun s part => part.effect s) s
  refine Reads.steps (I := I) ?_ ⟨parts, h, rfl, rfl⟩
  rintro _ t ⟨left, hleft, rfl, hfold⟩
  cases left with
  | nil =>
    refine .inl ⟨?_, hfold⟩
    exact .bind_nil .take?_none (fun _ hrest => hrest.2) (.pure rfl)
  | cons part left =>
    obtain ⟨⟨o, hoption, hread⟩, hleft⟩ := List.forall_mem_cons.1 hleft
    refine .inr ⟨part.all, left.flatMap Part.all, EndsExpr, rfl, List.cons_ne_nil _ _, ?_, ?_⟩
    · intro rest hrest
      cases left with
      | nil => exact hrest.1
      | cons next left => exact endsExpr_word _ _
    · refine .bind_cons (.take? hoption) (.bind_last (hread t) (fun _ h => h) fun t' ht => ?_)
      exact .pure ⟨t', rfl, left, hleft, rfl, ht ▸ hfold⟩

end Options

section TwoOptions

variable {α β : Type} {w v : String} {p : Parser α} {q : Parser β} {write : α → List Lexeme}
  {write' : β → List Lexeme} {a : Option α} {b : Option β}

/-- Two options, each behind its word and each perhaps left out. -/
def twoOptions (w v : String) (p : Parser α) (q : Parser β) :
    List (String × (Option α × Option β → Parser (Option α × Option β))) :=
  [(w, fun s => return (some (← p), s.2)), (v, fun s => return (s.1, some (← q)))]

theorem reads_twoOptions (hne : w ≠ v) (hp : ∀ x ∈ a, Reads p (write x) EndsExpr (· = x))
    (hq : ∀ y ∈ b, Reads q (write' y) EndsExpr (· = y)) :
    Reads (optionsOf (twoOptions w v p q) (none, none))
      (Style.optional w write a ++ Style.optional v write' b)
      (fun ms => EndsExpr ms ∧ ∀ u ∈ [w, v], ms.head? ≠ some (.word u)) (· = (a, b)) := by
  let parts : List (Part (Option α × Option β)) :=
    a.toList.map (fun x => ⟨w, write x, fun s => (some x, s.2)⟩) ++
      b.toList.map (fun y => ⟨v, write' y, fun s => (s.1, some y)⟩)
  have hfits : ∀ part ∈ parts, part.Fits (twoOptions w v p q) := by
    refine List.forall_mem_append.2 ⟨List.forall_mem_map.2 fun x hx => ?_,
      List.forall_mem_map.2 fun y hy => ?_⟩
    · refine ⟨_, List.find?_cons_of_pos (decide_eq_true rfl), fun s => ?_⟩
      exact .bind_pure (hp x (Option.mem_toList.1 hx)) (fun _ h => h) (.pure rfl)
    · have hfind : optionOf? (twoOptions w v p q) (.word v) =
          some (v, fun s => return (s.1, some (← q))) := by
        simp [optionOf?, twoOptions, hne.symm]
      refine ⟨_, hfind, fun s => ?_⟩
      exact .bind_pure (hq y (Option.mem_toList.1 hy)) (fun _ h => h) (.pure rfl)
  have hparts : parts.flatMap Part.all = Style.optional w write a ++ Style.optional v write' b := by
    cases a <;> cases b <;> simp [parts, Style.optional, Part.all]
  have hfold : parts.foldl (fun s part => part.effect s) (none, none) = (a, b) := by
    cases a <;> cases b <;> rfl
  have hread := reads_optionsOf hfits (none, none)
  rw [hparts, hfold] at hread
  refine hread.mono (fun ms hms => ⟨hms.1, ?_⟩) fun _ h => h
  cases hhead : ms.head? with
  | none => rfl
  | some l =>
    refine List.find?_eq_none.2 fun o ho hword => ?_
    have hmem : o.1 ∈ [w, v] := List.mem_map_of_mem ho
    exact hms.2 o.1 hmem (hhead.trans (congrArg some (of_decide_eq_true hword)))

end TwoOptions

/-! ## Areas -/

/-- What follows a modifier of a selector: another one, or the end of the selector. -/
def EndsModifier (ms : List Lexeme) : Prop :=
  ∃ w ∈ ["nearest", "farthest", "limit", "with", "in", "do"], ms.head? = some (.word w)

theorem EndsModifier.endsExpr {ms : List Lexeme} (h : EndsModifier ms) : EndsExpr ms := by
  obtain ⟨w, -, hw⟩ := h
  intro l hl
  obtain rfl := Option.some.inj (hl.symm.trans hw)
  exact ⟨rfl, rfl⟩

theorem EndsModifier.ends {ms : List Lexeme} (h : EndsModifier ms) {ws : List String}
    (hother : ∀ w ∈ ws, w ∉ ["nearest", "farthest", "limit", "with", "in", "do"]) :
    EndsExpr ms ∧ ∀ w ∈ ws, ms.head? ≠ some (.word w) := by
  refine ⟨h.endsExpr, fun w hw heq => hother w hw ?_⟩
  obtain ⟨w', hmem, hw'⟩ := h
  obtain rfl := Lexeme.word.inj (Option.some.inj (heq.symm.trans hw'))
  exact hmem

theorem endsExpr_optional {α : Type} {w : String} {write : α → List Lexeme} {o : Option α}
    {ms : List Lexeme} (h : EndsExpr ms) : EndsExpr (Style.optional w write o ++ ms) := by
  cases o with
  | none => exact h
  | some a => exact endsExpr_word _ _

theorem reads_optional_whole {o : Option Expr} (hwritable : o.all Expr.isWritable)
    (h : style.optionalNesting o ≤ levels) :
    ∀ e ∈ o, Reads (expr levels) (style.whole e) EndsExpr (· = e) := by
  rintro e rfl
  exact reads_whole hwritable h

theorem reads_optional_direction (o : Option Direction) :
    ∀ d ∈ o, Reads direction (Style.direction d) EndsExpr (· = d) :=
  fun d _ => (reads_direction d).mono (fun _ _ => trivial) fun _ h => h

theorem reads_lineArea {length : Expr} {dir : Option Direction} {width : Option Expr}
    (hwritable : (Area.line length dir width).isWritable)
    (h : style.areaNesting (.line length dir width) ≤ levels) :
    Reads (lineArea levels) (style.area (.line length dir width)).tail EndsModifier
      (· = .line length dir width) := by
  obtain ⟨hlength, hwidth⟩ := Bool.and_eq_true_iff.1 hwritable
  obtain ⟨hlevels, hlevels'⟩ := Nat.max_le.1 h
  refine .bind_cons .expect (.bind (reads_whole hlength hlevels) (fun rest hrest => ?_) ?_)
  · rw [List.append_assoc]
    exact endsExpr_optional (endsExpr_optional hrest.endsExpr)
  · rintro _ rfl
    have hoptions := reads_twoOptions (by decide : "dir" ≠ "width") (reads_optional_direction dir)
      (reads_optional_whole hwidth hlevels')
    exact .bind_pure hoptions (fun _ hrest => hrest.ends (by decide)) (.pure rfl)

theorem reads_coneArea {radius : Expr} {angle : Option Expr} {dir : Option Direction}
    (hwritable : (Area.cone radius angle dir).isWritable)
    (h : style.areaNesting (.cone radius angle dir) ≤ levels) :
    Reads (coneArea levels) (style.area (.cone radius angle dir)).tail EndsModifier
      (· = .cone radius angle dir) := by
  obtain ⟨hradius, hangle⟩ := Bool.and_eq_true_iff.1 hwritable
  obtain ⟨hlevels, hlevels'⟩ := Nat.max_le.1 h
  refine .bind_cons .expect (.bind (reads_whole hradius hlevels) (fun rest hrest => ?_) ?_)
  · rw [List.append_assoc]
    exact endsExpr_optional (endsExpr_optional hrest.endsExpr)
  · rintro _ rfl
    have hoptions := reads_twoOptions (by decide : "angle" ≠ "dir")
      (reads_optional_whole hangle hlevels') (reads_optional_direction dir)
    exact .bind_pure hoptions (fun _ hrest => hrest.ends (by decide)) (.pure rfl)

/-! ## Modifiers -/

/-- What a modifier makes of a selector. -/
def Modifier.put (s : Selector) : Modifier → Selector
  | .order o => { s with order := some o }
  | .limit e => { s with limit := some e }
  | .range e anchor => { s with range := some e, anchor := anchor.or s.anchor }
  | .tag t => { s with withTags := s.withTags ++ [t] }
  | .area a => { s with area := some a }

def Modifier.isWritable : Modifier → Bool
  | .limit e | .range e _ => e.node.isWritable
  | .area a => a.node.isWritable
  | .order _ | .tag _ => true

theorem reads_restriction_range {e : Located Expr} (hwritable : e.node.isWritable)
    (h : style.wholeNesting e.node ≤ levels) (pos : Pos) (s : Selector) (anchor : Option Ref) :
    Reads (restriction levels pos s)
      (.word "range" :: (style.whole e.node ++ Style.optional "of" style.ref anchor)) EndsModifier
      fun s' => s'.unplaced = (Modifier.put s (.range e anchor)).unplaced := by
  refine .bind_cons .eat (.bind (reads_whole hwritable h) (fun _ hrest => ?_) ?_)
  · exact endsExpr_optional hrest.endsExpr
  rintro _ rfl
  cases anchor with
  | some ref =>
    exact .bind_cons .eat (.bind_pure (reads_reference style ref) (fun _ _ => trivial) (.pure rfl))
  | none =>
    refine .bind_nil .eat_none (fun _ hrest => ?_) (.pure rfl)
    exact (hrest.ends (by decide : ∀ w ∈ ["of"], _)).2 "of" (by decide)

theorem reads_restriction_area {a : Located Area} (hwritable : a.node.isWritable)
    (h : style.areaNesting a.node ≤ levels) (pos : Pos) (s : Selector) :
    Reads (restriction levels pos s) (style.area a.node) EndsModifier
      fun s' => s'.unplaced = (Modifier.put s (.area a)).unplaced := by
  obtain ⟨_ | _, place⟩ := a
  · refine .bind_eat_ne (by decide) (.bind_cons .eat ?_)
    exact .bind_pure (reads_lineArea hwritable h) (fun _ h => h) (.pure rfl)
  · refine .bind_eat_ne (by decide) (.bind_eat_ne (by decide) (.bind_cons .eat ?_))
    exact .bind_pure (reads_coneArea hwritable h) (fun _ h => h) (.pure rfl)

theorem reads_selectorOption {m : Modifier} (hwritable : m.isWritable)
    (h : style.modifierNesting m ≤ levels) (s : Selector) :
    Reads (selectorOption levels s) (style.modifier m) EndsModifier
      fun r => ∃ s', r = some s' ∧ s'.unplaced = (m.put s).unplaced := by
  refine .here fun pos => ?_
  cases m with
  | order o =>
    cases o with
    | nearest => exact .bind_cons .eat (.pure ⟨_, rfl, rfl⟩)
    | farthest => exact .bind_eat_ne (by decide) (.bind_cons .eat (.pure ⟨_, rfl, rfl⟩))
  | limit e =>
    refine .bind_eat_ne (by decide) (.bind_eat_ne (by decide) (.bind_cons .eat ?_))
    exact .bind_pure (reads_whole hwritable h) (fun _ hrest => hrest.endsExpr) (.pure ⟨_, rfl, rfl⟩)
  | tag t =>
    refine .bind_eat_ne (by decide) (.bind_eat_ne (by decide) (.bind_eat_ne (by decide) ?_))
    exact .bind_cons .eat (.bind_pure (reads_tagTest t) (fun _ _ => trivial) (.pure ⟨_, rfl, rfl⟩))
  | range e anchor =>
    refine .bind_eat_ne (by decide) (.bind_eat_ne (by decide) (.bind_eat_ne (by decide) ?_))
    refine .bind_eat_ne (by decide) (.bind_cons .eat ?_)
    exact .bind_last (reads_restriction_range hwritable h pos s anchor) (fun _ h => h)
      fun s' hs => .pure ⟨s', rfl, hs⟩
  | area a =>
    refine .bind_eat_ne (by decide) (.bind_eat_ne (by decide) (.bind_eat_ne (by decide) ?_))
    refine .bind_eat_ne (by decide) (.bind_cons .eat ?_)
    exact .bind_last (reads_restriction_area hwritable h pos s) (fun _ h => h)
      fun s' hs => .pure ⟨s', rfl, hs⟩

/-- Putting a modifier on a selector does not look at positions. -/
theorem Modifier.put_unplaced {s t : Selector} (h : s.unplaced = t.unplaced) (m : Modifier) :
    (m.put s).unplaced = (m.put t).unplaced := by
  simp only [Selector.unplaced, Selector.mk.injEq] at h ⊢
  obtain ⟨hpool, horder, hlimit, hrange, hanchor, htags, harea⟩ := h
  cases m <;> simp only [put, hpool, horder, hlimit, hrange, hanchor, htags, harea, and_self]

theorem Modifier.foldl_put_unplaced {s t : Selector} (h : s.unplaced = t.unplaced)
    (ms : List Modifier) : (ms.foldl put s).unplaced = (ms.foldl put t).unplaced := by
  induction ms generalizing s t with
  | nil => exact h
  | cons m ms ih => exact ih (m.put_unplaced h)

/-- What a modifier is written as begins with a word that ends a modifier before it. -/
theorem endsModifier_modifier (m : Modifier) (rest : List Lexeme) :
    EndsModifier (style.modifier m ++ rest) := by
  cases m with
  | order o => cases o <;> exact ⟨_, by decide, rfl⟩
  | limit | range | tag | area => exact ⟨_, by decide, rfl⟩

theorem modifier_ne_nil (m : Modifier) : style.modifier m ≠ [] := by
  cases m <;> exact List.cons_ne_nil _ _

/-! ## All modifiers of a selector -/

/-- What the modifiers of one kind of `s` make of a selector. -/
def Selector.copy (s t : Selector) : ModifierKind → Selector
  | .order => { t with order := s.order.or t.order }
  | .limit => { t with limit := s.limit.or t.limit }
  | .range => { t with range := s.range.or t.range, anchor := s.anchor.or t.anchor }
  | .tags => { t with withTags := t.withTags ++ s.withTags }
  | .area => { t with area := s.area.or t.area }

theorem foldl_put_tags (tags : List String) (t : Selector) :
    (tags.map Modifier.tag).foldl Modifier.put t = { t with withTags := t.withTags ++ tags } := by
  induction tags generalizing t with
  | nil => rw [List.append_nil]; rfl
  | cons tag tags ih =>
    rw [List.map_cons, List.foldl_cons, ih, Modifier.put, List.append_assoc]
    rfl

theorem Selector.foldl_modifiers {s : Selector} (hanchor : s.anchor.isNone || s.range.isSome)
    (t : Selector) (kind : ModifierKind) :
    (s.modifiers kind).foldl Modifier.put t = s.copy t kind := by
  obtain ⟨pool, order, limit, range, anchor, tags, area⟩ := s
  cases kind with
  | order => cases order <;> rfl
  | limit => cases limit <;> rfl
  | area => cases area <;> rfl
  | tags => exact foldl_put_tags tags t
  | range =>
    cases range with
    | some e => rfl
    | none =>
      cases anchor with
      | none => rfl
      | some ref => cases hanchor

/-- Modifiers of different kinds do not meet. -/
theorem Selector.copy_comm (s t : Selector) (j k : ModifierKind) :
    s.copy (s.copy t j) k = s.copy (s.copy t k) j := by
  cases j <;> cases k <;> rfl

/-- Whatever the order of their kinds, the modifiers of a selector make it out of its pool. -/
theorem Selector.foldl_put_modifiers {s : Selector} (hanchor : s.anchor.isNone || s.range.isSome) :
    (style.order.flatMap s.modifiers).foldl Modifier.put { pool := s.pool } = s := by
  have hkinds : (style.order.flatMap s.modifiers).foldl Modifier.put { pool := s.pool } =
      style.order.foldl s.copy { pool := s.pool } := by
    rw [List.foldl_flatMap]
    congr 1
    funext t kind
    exact s.foldl_modifiers hanchor t kind
  rw [hkinds, style.order_perm.foldl_eq' fun j _ k _ t => s.copy_comm t j k]
  simp only [ModifierKind.all, List.foldl_cons, List.foldl_nil, copy, Option.or_none,
    List.nil_append]

theorem Selector.forall_modifiers {s : Selector} (hwritable : s.isWritable)
    (h : style.selectorNesting s ≤ levels) {m : Modifier} {kind : ModifierKind}
    (hm : m ∈ s.modifiers kind) : m.isWritable ∧ style.modifierNesting m ≤ levels := by
  simp only [isWritable, Bool.and_eq_true] at hwritable
  obtain ⟨⟨⟨hlimit, hrange⟩, harea⟩, -⟩ := hwritable
  obtain ⟨hlimit', hrange', harea'⟩ := by simpa only [Style.selectorNesting, Nat.max_le] using h
  cases kind with
  | order =>
    obtain ⟨o, -, rfl⟩ := List.mem_map.1 hm
    exact ⟨rfl, Nat.zero_le _⟩
  | tags =>
    obtain ⟨t, -, rfl⟩ := List.mem_map.1 hm
    exact ⟨rfl, Nat.zero_le _⟩
  | limit =>
    obtain ⟨e, he, rfl⟩ := List.mem_map.1 hm
    rw [Option.mem_toList.1 he] at hlimit hlimit'
    exact ⟨hlimit, hlimit'⟩
  | range =>
    obtain ⟨e, he, rfl⟩ := List.mem_map.1 hm
    rw [Option.mem_toList.1 he] at hrange hrange'
    exact ⟨hrange, hrange'⟩
  | area =>
    obtain ⟨a, ha, rfl⟩ := List.mem_map.1 hm
    rw [Option.mem_toList.1 ha] at harea harea'
    exact ⟨harea, harea'⟩

/-! ## Selectors -/

/-- A loop's body follows. -/
def BeforeDo (ms : List Lexeme) : Prop := ms.head? = some (.word "do")

theorem reads_pool (p : Pool) : Reads pool [.word p.name] Any (· = p) := by
  refine .here fun pos => ?_
  cases p <;> exact .bind_cons (.take rfl) (.pure rfl)

theorem reads_selectorOption_none (s : Selector) :
    Reads (selectorOption levels s) [] BeforeDo (· = none) := by
  have hother : ∀ w ≠ "do", ∀ rest, BeforeDo rest → rest.head? ≠ some (.word w) := by
    intro w hw rest hrest heq
    exact hw (Lexeme.word.inj (Option.some.inj (heq.symm.trans hrest)))
  refine .here fun pos => ?_
  refine .bind_nil .eat_none (hother "nearest" (by decide)) ?_
  refine .bind_nil .eat_none (hother "farthest" (by decide)) ?_
  refine .bind_nil .eat_none (hother "limit" (by decide)) ?_
  refine .bind_nil .eat_none (hother "with" (by decide)) ?_
  exact .bind_nil .eat_none (hother "in" (by decide)) (.pure rfl)

theorem reads_modifiers {ms : List Modifier}
    (h : ∀ m ∈ ms, m.isWritable ∧ style.modifierNesting m ≤ levels) (s : Selector) :
    Reads (steps (selectorOption levels) s) (ms.flatMap style.modifier) BeforeDo
      (·.unplaced = (ms.foldl Modifier.put s).unplaced) := by
  -- what is left, put on the selector so far, makes what all of it makes of the first one
  let I (ls : List Lexeme) (t : Selector) : Prop :=
    ∃ left : List Modifier, (∀ m ∈ left, m.isWritable ∧ style.modifierNesting m ≤ levels) ∧
      ls = left.flatMap style.modifier ∧
      (left.foldl Modifier.put t).unplaced = (ms.foldl Modifier.put s).unplaced
  refine Reads.steps (I := I) ?_ ⟨ms, h, rfl, rfl⟩
  rintro _ t ⟨left, hleft, rfl, hfold⟩
  cases left with
  | nil => exact .inl ⟨reads_selectorOption_none t, hfold⟩
  | cons m left =>
    obtain ⟨⟨hwritable, hlevels⟩, hleft⟩ := List.forall_mem_cons.1 hleft
    refine .inr ⟨style.modifier m, left.flatMap style.modifier, EndsModifier, rfl,
      modifier_ne_nil m, ?_, ?_⟩
    · intro rest hrest
      cases left with
      | nil => exact ⟨"do", by decide, hrest⟩
      | cons next left =>
        rw [List.flatMap_cons, List.append_assoc]
        exact endsModifier_modifier next _
    · refine (reads_selectorOption hwritable hlevels t).mono (fun _ h => h) ?_
      rintro _ ⟨t', rfl, ht⟩
      exact ⟨t', rfl, left, hleft, rfl, (Modifier.foldl_put_unplaced ht left).trans hfold⟩

/-- A selector that was written is read back. -/
theorem reads_selector {s : Selector} (hwritable : s.isWritable)
    (h : style.selectorNesting s ≤ levels) :
    Reads (selector levels) (style.selector s) BeforeDo (·.node.unplaced = s.unplaced) := by
  have hanchor : s.anchor.isNone || s.range.isSome := (Bool.and_eq_true_iff.1 hwritable).2
  have hmodifiers : ∀ m ∈ style.order.flatMap s.modifiers,
      m.isWritable ∧ style.modifierNesting m ≤ levels := by
    intro m hm
    obtain ⟨kind, -, hkind⟩ := List.mem_flatMap.1 hm
    exact s.forall_modifiers hwritable h hkind
  refine .here fun pos => .bind_cons (reads_pool s.pool) ?_
  refine .bind_last (reads_modifiers hmodifiers _) (fun _ h => h) fun s' hs => .pure ?_
  rw [Selector.foldl_put_modifiers hanchor] at hs
  exact hs

end Skirmish.Script
