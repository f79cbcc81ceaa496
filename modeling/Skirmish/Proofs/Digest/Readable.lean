import Skirmish.World.Digest

/-!
# Encodings that can be read back

An encoding is readable if what it wrote can be told apart whatever bytes follow: of two encodings
that begin the same bytes, both what was written and what follows are the same (`Readable`). Some
encodings are readable only among things of one layout, which the bytes do not show.

Numbers of fixed width are readable, and so are texts, because their length stands in front of them.
A list is readable among lists whose members have the same layouts, one by one
(`Readable.flatMap`).
-/

namespace Skirmish.Digest

variable {α β κ μ : Type}

/-- What an encoding wrote, and what follows, can be read off the bytes, among things that fit and
have the same layout. -/
def Readable (fits : α → Prop) (layout : α → κ) (encode : α → List UInt8) : Prop :=
  ∀ ⦃a b⦄, fits a → fits b → layout a = layout b →
    ∀ ⦃r s⦄, encode a ++ r = encode b ++ s → a = b ∧ r = s

namespace Readable

variable {fits : α → Prop} {layout : α → κ} {encode : α → List UInt8}

/-- Encodings of one length need only be injective. -/
theorem of_length (hlength : ∀ a b, (encode a).length = (encode b).length)
    (hinj : ∀ a b, fits a → fits b → encode a = encode b → a = b) :
    Readable fits layout encode := by
  intro a b ha hb _ r s h
  obtain ⟨hencoded, hrest⟩ := List.append_inj h (hlength a b)
  exact ⟨hinj a b ha hb hencoded, hrest⟩

/-- To ask for more is no harder to read. -/
theorem mono {fits' : α → Prop} {layout' : α → μ} (h : Readable fits layout encode)
    (hfits : ∀ a, fits' a → fits a)
    (hlayout : ∀ a b, layout' a = layout' b → layout a = layout b) :
    Readable fits' layout' encode := by
  intro a b ha hb hab
  exact h (hfits a ha) (hfits b hb) (hlayout a b hab)

theorem append {fits' : β → Prop} {layout' : β → μ} {encode' : β → List UInt8}
    (h : Readable fits layout encode) (k : Readable fits' layout' encode') :
    Readable (fun p : α × β => fits p.1 ∧ fits' p.2) (fun p => (layout p.1, layout' p.2))
      fun p => encode p.1 ++ encode' p.2 := by
  rintro ⟨a, c⟩ ⟨b, d⟩ ⟨ha, hc⟩ ⟨hb, hd⟩ hlayout r s hbytes
  obtain ⟨hab, hcd⟩ := Prod.mk.inj hlayout
  rw [List.append_assoc, List.append_assoc] at hbytes
  obtain ⟨rfl, hrest⟩ := h ha hb hab hbytes
  obtain ⟨rfl, hend⟩ := k hc hd hcd hrest
  exact ⟨rfl, hend⟩

theorem flatMap (h : Readable fits layout encode) :
    Readable (fun l : List α => ∀ a ∈ l, fits a) (List.map layout) (List.flatMap encode) := by
  intro l m hl hm hlayout r s hbytes
  induction l generalizing m with
  | nil =>
    rw [List.map_nil, eq_comm, List.map_eq_nil_iff] at hlayout
    subst hlayout
    exact ⟨rfl, hbytes⟩
  | cons a l ih =>
    cases m with
    | nil => cases hlayout
    | cons b m =>
      obtain ⟨hab, hrest⟩ := List.cons.inj hlayout
      rw [List.flatMap_cons, List.flatMap_cons, List.append_assoc, List.append_assoc] at hbytes
      obtain ⟨rfl, hlater⟩ := h (hl a List.mem_cons_self) (hm b List.mem_cons_self) hab hbytes
      obtain ⟨rfl, hend⟩ := ih (fun c hc => hl c (List.mem_cons_of_mem a hc))
        (fun c hc => hm c (List.mem_cons_of_mem a hc)) hrest hlater
      exact ⟨rfl, hend⟩

end Readable

/-! ## Numbers -/

theorem littleEndian_succ (width n : Nat) :
    littleEndian (width + 1) n = n.toUInt8 :: littleEndian width (n / 256) := by
  have hshift : ∀ i, n >>> (8 * (i + 1)) = (n / 256) >>> (8 * i) := by
    intro i
    rw [Nat.mul_add, Nat.add_comm, Nat.shiftRight_add]
    exact congrArg (· >>> (8 * i)) (Nat.shiftRight_eq_div_pow n 8)
  rw [littleEndian, List.range_succ_eq_map, List.map_cons, List.map_map]
  refine congrArg (n.toUInt8 :: ·) (List.map_congr_left fun i _ => ?_)
  exact congrArg Nat.toUInt8 (hshift i)

theorem length_littleEndian (width n : Nat) : (littleEndian width n).length = width := by
  rw [littleEndian, List.length_map, List.length_range]

theorem littleEndian_inj {width n m : Nat} (hn : n < Nat.pow 256 width)
    (hm : m < Nat.pow 256 width) (h : littleEndian width n = littleEndian width m) : n = m := by
  induction width generalizing n m with
  | zero =>
    rw [Nat.pow_eq, Nat.pow_zero] at hn hm
    omega
  | succ width ih =>
    have hdiv : ∀ k, k < Nat.pow 256 (width + 1) → k / 256 < Nat.pow 256 width :=
      fun k hk => Nat.div_lt_of_lt_mul (Nat.mul_comm 256 _ ▸ hk)
    rw [littleEndian_succ, littleEndian_succ] at h
    obtain ⟨hfirst, hrest⟩ := List.cons.inj h
    have hlow : n % 256 = m % 256 := congrArg UInt8.toNat hfirst
    have hhigh : n / 256 = m / 256 := ih (hdiv n hn) (hdiv m hm) hrest
    omega

theorem readable_littleEndian {width : Nat} :
    Readable (· < Nat.pow 256 width) (fun _ => ()) (littleEndian width) := by
  refine .of_length (fun n m => ?_) fun n m hn hm => littleEndian_inj hn hm
  rw [length_littleEndian, length_littleEndian]

theorem readable_word : Readable (fun _ => True) (fun _ => ()) word := by
  intro n m _ _ _ r s h
  obtain ⟨hnat, hrest⟩ := readable_littleEndian n.toNat_lt m.toNat_lt rfl h
  exact ⟨UInt64.toNat_inj.1 hnat, hrest⟩

theorem readable_halfWord : Readable (fun _ => True) (fun _ => ()) halfWord := by
  intro n m _ _ _ r s h
  obtain ⟨hnat, hrest⟩ := readable_littleEndian n.toNat_lt m.toNat_lt rfl h
  exact ⟨UInt32.toNat_inj.1 hnat, hrest⟩

theorem readable_coord : Readable (fun _ => True) (fun _ => ()) coord := by
  rintro ⟨⟨x⟩, ⟨y⟩⟩ ⟨⟨x'⟩, ⟨y'⟩⟩ _ _ _ r s h
  have hboth : Readable _ _ fun p : UInt32 × UInt32 => halfWord p.1 ++ halfWord p.2 :=
    readable_halfWord.append readable_halfWord
  obtain ⟨hpair, hrest⟩ := @hboth (x, y) (x', y') ⟨trivial, trivial⟩ ⟨trivial, trivial⟩ rfl r s h
  cases hpair
  exact ⟨rfl, hrest⟩

/-! ## Texts -/

/-- The length of a text fits in front of it. -/
def TextFits (s : String) : Prop := s.utf8ByteSize < UInt64.size

instance (s : String) : Decidable (TextFits s) := inferInstanceAs (Decidable (_ < _))

theorem toList_loop (bytes : ByteArray) (i : Nat) (read : List UInt8) :
    ByteArray.toList.loop bytes i read = read.reverse ++ bytes.data.toList.drop i := by
  induction i, read using ByteArray.toList.loop.induct bytes with
  | case1 i read hi ih =>
    have hi' : i < bytes.data.toList.length := hi
    have hget : bytes.get! i = bytes.data.toList[i] := getElem!_pos bytes.data i hi
    rw [ByteArray.toList.loop, if_pos hi, ih, List.reverse_cons, List.append_assoc, hget,
      List.drop_eq_getElem_cons hi']
    rfl
  | case2 i read hi =>
    have hi' : bytes.data.toList.length ≤ i := Nat.le_of_not_lt hi
    rw [ByteArray.toList.loop, if_neg hi, List.drop_eq_nil_of_le hi', List.append_nil]

theorem toList_eq_data (bytes : ByteArray) : bytes.toList = bytes.data.toList :=
  toList_loop bytes 0 []

theorem length_toList_toUTF8 (s : String) : s.toUTF8.toList.length = s.utf8ByteSize := by
  rw [toList_eq_data, Array.length_toList]
  exact String.size_toByteArray

theorem toList_toUTF8_inj {s t : String} (h : s.toUTF8.toList = t.toUTF8.toList) : s = t := by
  rw [toList_eq_data, toList_eq_data, Array.toList_inj] at h
  exact String.toByteArray_inj.1 (ByteArray.ext h)

theorem readable_text : Readable TextFits (fun _ => ()) text := by
  intro s t hs ht _ r r' h
  rw [text, text, List.append_assoc, List.append_assoc] at h
  obtain ⟨hsize, hrest⟩ := readable_littleEndian hs ht rfl h
  have hlength : s.toUTF8.toList.length = t.toUTF8.toList.length := by
    rw [length_toList_toUTF8, length_toList_toUTF8, hsize]
  obtain ⟨hchars, hend⟩ := List.append_inj hrest hlength
  exact ⟨toList_toUTF8_inj hchars, hend⟩

/-! ## Values -/

/-- The texts of a value fit. -/
def ValueFits : Value → Prop
  | .text s => TextFits s
  | .int _ | .float _ | .bool _ | .coord _ => True

instance : DecidablePred ValueFits
  | .text s => inferInstanceAs (Decidable (TextFits s))
  | .int _ | .float _ | .bool _ | .coord _ => inferInstanceAs (Decidable True)

theorem float_eq_of_toBits {x y : Float} (h : x.toBits = y.toBits) : x = y := by
  obtain ⟨⟨_, _⟩⟩ := x
  obtain ⟨⟨_, _⟩⟩ := y
  cases h
  rfl

/-- The byte that tells the kind of a value. -/
def kindByte : Value → UInt8
  | .int _ => 0
  | .float _ => 1
  | .bool _ => 2
  | .text _ => 3
  | .coord _ => 4

/-- The bytes of a value after the one that tells its kind. -/
def content : Value → List UInt8
  | .int n => word n.toUInt64
  | .float x => word x.toBits
  | .bool b => [if b then 1 else 0]
  | .text s => text s
  | .coord c => coord c

theorem value_eq (v : Value) : value v = kindByte v :: content v := by
  cases v <;> rfl

/-- The first byte of a value tells how to read the others. -/
theorem readable_value : Readable ValueFits (fun _ => ()) value := by
  intro v w hv hw _ r s h
  rw [value_eq, value_eq] at h
  obtain ⟨hkind, hcontent⟩ := List.cons.inj h
  cases v with
  | int n =>
    cases w with
    | int m =>
      obtain ⟨hword, hrest⟩ := readable_word trivial trivial rfl hcontent
      exact ⟨congrArg (fun u => Value.int (.ofUInt64 u)) hword, hrest⟩
    | _ => simp [kindByte] at hkind
  | float x =>
    cases w with
    | float y =>
      obtain ⟨hword, hrest⟩ := readable_word trivial trivial rfl hcontent
      exact ⟨congrArg Value.float (float_eq_of_toBits hword), hrest⟩
    | _ => simp [kindByte] at hkind
  | bool b =>
    cases w with
    | bool c =>
      obtain ⟨hbit, hrest⟩ := List.cons.inj hcontent
      have hbc : b = c := by
        revert hbit
        cases b <;> cases c <;> decide
      exact ⟨congrArg Value.bool hbc, hrest⟩
    | _ => simp [kindByte] at hkind
  | text t =>
    cases w with
    | text u =>
      obtain ⟨htext, hrest⟩ := readable_text hv hw rfl hcontent
      exact ⟨congrArg Value.text htext, hrest⟩
    | _ => simp [kindByte] at hkind
  | coord c =>
    cases w with
    | coord d =>
      obtain ⟨hcoord, hrest⟩ := readable_coord trivial trivial rfl hcontent
      exact ⟨congrArg Value.coord hcoord, hrest⟩
    | _ => simp [kindByte] at hkind

/-! ## Bags -/

/-- The texts of a bag fit. -/
structure BagFits (b : Bag) : Prop where
  vars : ∀ v ∈ b.vars.entries, TextFits v.1 ∧ ValueFits v.2
  tags : ∀ tag ∈ b.tags.toList, TextFits tag

instance : DecidablePred BagFits := fun _ =>
  decidable_of_iff (_ ∧ _) ⟨fun h => ⟨h.1, h.2⟩, fun h => ⟨h.vars, h.tags⟩⟩

/-- The numbers of variables and of tags, which the bytes of a bag do not show. -/
def bagLayout (b : Bag) : Nat × Nat := (b.vars.entries.length, b.tags.toList.length)

theorem entries_inj {m n : NameMap α} (h : m.entries = n.entries) : m = n := by
  obtain ⟨_, _⟩ := m
  obtain ⟨_, _⟩ := n
  cases h
  rfl

theorem toList_inj {s t : NameSet} (h : s.toList = t.toList) : s = t := by
  refine NameSet.ext fun name => ?_
  have hmem : name ∈ s.table.names ↔ name ∈ t.table.names := by
    rw [← NameSet.toList, ← NameSet.toList, h]
  rw [NameMap.mem_names_iff, NameMap.mem_names_iff] at hmem
  exact Bool.eq_iff_iff.2 hmem

/-- Lists of one length have the same layout if their members have none to tell apart. -/
theorem map_unit_eq {l m : List α} (h : l.length = m.length) :
    (l.map fun _ => ()) = m.map fun _ => () := by
  rw [List.map_const', List.map_const', h]

theorem readable_bag : Readable BagFits bagLayout bag := by
  have hvar : Readable (fun v : String × Value => TextFits v.1 ∧ ValueFits v.2) (fun _ => ())
      fun v => text v.1 ++ value v.2 :=
    (readable_text.append readable_value).mono (fun _ hv => hv) fun _ _ _ => rfl
  intro b c hb hc hlayout r s h
  obtain ⟨hvars, htags⟩ := Prod.mk.inj hlayout
  rw [bag, bag, List.append_assoc, List.append_assoc] at h
  obtain ⟨hentries, hrest⟩ := hvar.flatMap hb.vars hc.vars (map_unit_eq hvars) h
  obtain ⟨hlist, hend⟩ :=
    readable_text.flatMap hb.tags hc.tags (map_unit_eq htags) (List.cons.inj hrest).2
  have hbag : b = c := Bag.mk.injEq .. ▸ ⟨entries_inj hentries, toList_inj hlist⟩
  exact ⟨hbag, hend⟩

end Skirmish.Digest
