import Skirmish.World.Place

/-!
# Footprints

A footprint is the set of keys that an action may read or write. A key names one piece of state, or
the same piece on every unit where the units are chosen only when the action happens. A tag key of
a unit that ends in a colon stands for all tags that begin with it.

Two keys overlap if they may name the same piece of state.
-/

namespace Skirmish

/-- A piece of state, or one on every unit. -/
inductive Key where
  | var (place : Place) (name : String)
  | tag (place : Place) (name : String)
  /-- A variable of any unit. -/
  | anyUnitVar (name : String)
  /-- A tag of any unit. -/
  | anyUnitTag (name : String)
  | rolls
  deriving DecidableEq

namespace Key

/-- Whether a tag key stands for a family of tags. -/
def isFamily (tag : String) : Bool := tag.toList.getLast? == some ':'

/-- Whether two tag keys may name the same tag of a unit. -/
def tagsOverlap (a b : String) : Bool :=
  a == b || (isFamily a && a.toList.isPrefixOf b.toList) ||
    (isFamily b && b.toList.isPrefixOf a.toList)

/-- Whether two keys may name the same piece of state. -/
def overlaps : Key → Key → Bool
  | anyUnitVar a, anyUnitVar b
  | anyUnitVar a, var (.unit _) b
  | var (.unit _) a, anyUnitVar b => a == b
  | anyUnitTag a, anyUnitTag b
  | anyUnitTag a, tag (.unit _) b
  | tag (.unit _) a, anyUnitTag b => tagsOverlap a b
  | tag (.unit i) a, tag (.unit j) b => i == j && tagsOverlap a b
  | k, l => k == l

def text : Key → String
  | var (.unit id) name => s!"unitvar:{id}:{name}"
  | tag (.unit id) name => s!"unittag:{id}:{name}"
  | var (.tile p) name => s!"tilevar:{p.x.toInt},{p.y.toInt}:{name}"
  | tag (.tile p) name => s!"tiletag:{p.x.toInt},{p.y.toInt}:{name}"
  | var .global name => s!"globalvar:{name}"
  | tag .global name => s!"globaltag:{name}"
  | anyUnitVar name => s!"unitvar:*:{name}"
  | anyUnitTag name => s!"unittag:*:{name}"
  | rolls => "global:rolls"

/-- The position of the kind of a key in the order of keys. -/
def rank : Key → Nat
  | var (.unit _) _ => 0
  | tag (.unit _) _ => 1
  | var (.tile _) _ => 2
  | tag (.tile _) _ => 3
  | var .global _ => 4
  | tag .global _ => 5
  | anyUnitVar _ => 6
  | anyUnitTag _ => 7
  | rolls => 8

/-- Where a key lies, in the order of columns, rows and ids. -/
def owner : Key → Int × Int × String
  | var (.unit id) _ | tag (.unit id) _ => (0, 0, id)
  | var (.tile p) _ | tag (.tile p) _ => (p.x.toInt, p.y.toInt, "")
  | _ => (0, 0, "")

def name : Key → String
  | var _ n | tag _ n | anyUnitVar n | anyUnitTag n => n
  | rolls => ""

/-- The order of keys: by kind, then by owner, then by name. -/
def order (k l : Key) : Ordering :=
  let (kx, ky, ki) := k.owner
  let (lx, ly, li) := l.owner
  (compare k.rank l.rank).then <| (compare kx lx).then <| (compare ky ly).then <|
    (compare ki li).then (compare k.name l.name)

end Key

/-- A set of keys, listed in order. -/
structure Footprint where
  keys : List Key
  deriving DecidableEq

namespace Footprint

def empty : Footprint := ⟨[]⟩

/-- Puts a key in its place in a list, once. -/
private def insertKey (k : Key) : List Key → List Key
  | [] => [k]
  | l :: rest =>
    if k = l then l :: rest
    else if k.order l = .lt then k :: l :: rest
    else l :: insertKey k rest

def insert (f : Footprint) (k : Key) : Footprint := ⟨insertKey k f.keys⟩

def ofList (keys : List Key) : Footprint := keys.foldl insert empty

def contains (f : Footprint) (k : Key) : Bool := f.keys.contains k

/-- Whether no key of one footprint overlaps a key of the other. -/
def disjoint (f g : Footprint) : Bool := !f.keys.any fun k => g.keys.any k.overlaps

private theorem mem_insertKey {k l : Key} {keys : List Key} :
    l ∈ insertKey k keys ↔ l = k ∨ l ∈ keys := by
  induction keys with
  | nil => simp [insertKey]
  | cons m rest ih =>
    rw [insertKey]
    split
    · simp_all
    · split
      · simp
      · simp only [List.mem_cons, ih]
        grind

theorem mem_insert {f : Footprint} {k l : Key} : l ∈ (f.insert k).keys ↔ l = k ∨ l ∈ f.keys :=
  mem_insertKey

theorem mem_ofList {keys : List Key} {k : Key} : k ∈ (ofList keys).keys ↔ k ∈ keys := by
  have general : ∀ (keys : List Key) (f : Footprint),
      k ∈ (keys.foldl insert f).keys ↔ k ∈ f.keys ∨ k ∈ keys := by
    intro keys
    induction keys with
    | nil => simp
    | cons l rest ih =>
      intro f
      rw [List.foldl_cons, ih, mem_insert, List.mem_cons]
      grind
  rw [ofList, general]
  simp [empty]

end Footprint

end Skirmish
