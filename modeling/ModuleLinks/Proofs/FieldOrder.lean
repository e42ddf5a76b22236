/-
The order in which objects list their fields.

A parser may print the fields of a node in any order, and two printings of one tree must
not differ in their links. A question about a node asks for fields by their keys, so the
order of fields is out of its sight: being the same up to the order of fields is a
likeness. What the order does touch is the order of the children of a node, which are met
field by field. If all of them have positions they are sorted, and if no two of these are
the same there is one way to sort them: then the surveys of the two trees are equal.
Otherwise the children of two nodes are the same up to order, and so is all that a walk
over them finds.

Main statement: `survey_reordered`.
-/
import ModuleLinks.Proofs.ImportExpressions
import ModuleLinks.Proofs.Likeness

set_option autoImplicit false

namespace ModuleLinks

namespace Json

/-! ## Trees up to the order of fields -/

/-- **The same value up to the order of fields**, in every object inside of it. -/
inductive Reordered : Json → Json → Prop where
  | leaf {j : Json} (h : j.isContainer = false) : Reordered j j
  | list {items items' : List Json} (h : List.Forall₂ Reordered items items') :
    Reordered (.arr items) (.arr items')
  | object {fields between fields' : List (Text × Json)}
    (hvalues : List.Forall₂ (SameKey Reordered) fields between) (hperm : between.Perm fields') :
    Reordered (.obj fields) (.obj fields')

mutual

theorem reordered_refl : ∀ j : Json, Reordered j j
  | .arr items => .list (forall₂_reordered_refl items)
  | .obj fields => .object (forall₂_sameKey_refl fields) (.refl _)
  | .null | .bool _ | .int _ | .float _ | .str _ => .leaf rfl

theorem forall₂_reordered_refl : ∀ items : List Json, List.Forall₂ Reordered items items
  | [] => .nil
  | item :: rest => .cons (reordered_refl item) (forall₂_reordered_refl rest)

theorem forall₂_sameKey_refl :
    ∀ fields : List (Text × Json), List.Forall₂ (SameKey Reordered) fields fields
  | [] => .nil
  | (_, value) :: rest => .cons (.mk (reordered_refl value)) (forall₂_sameKey_refl rest)

end

/-- If no key comes twice, each entry is what its key leads to. -/
theorem lookup_eq_some_iff_mem {fields : List (Text × Json)} (h : (fields.map Prod.fst).Nodup)
    {key : Text} {value : Json} : fields.lookup key = some value ↔ (key, value) ∈ fields := by
  induction fields with
  | nil => simp
  | cons field rest ih =>
    obtain ⟨first, inner⟩ := field
    rw [List.map_cons, List.nodup_cons] at h
    rw [List.mem_cons, ← ih h.2, List.lookup_cons]
    by_cases hkey : key = first
    · subst hkey
      -- The key does not come again, so it leads nowhere in the rest.
      have habsent : rest.lookup key ≠ some value := by
        rw [Ne, ih h.2]
        exact fun hmem => h.1 (List.mem_map.2 ⟨_, hmem, rfl⟩)
      simp [habsent, eq_comm]
    · have hother : (key == first) = false := by simpa using hkey
      simp [hother, hkey]

/-- Fields in another order have the same values. -/
theorem lookup_eq_of_perm {fields fields' : List (Text × Json)} (hperm : fields.Perm fields')
    (h : (fields.map Prod.fst).Nodup) (key : Text) : fields.lookup key = fields'.lookup key := by
  have h' : (fields'.map Prod.fst).Nodup := (hperm.map Prod.fst).nodup_iff.1 h
  apply Option.ext
  intro value
  rw [lookup_eq_some_iff_mem h, lookup_eq_some_iff_mem h', hperm.mem_iff]

/-! ## The one way to sort -/

/-- Both positions are known, and the first one is smaller. -/
def Sooner (m? n? : Option Int) : Prop := ∃ m n, m? = some m ∧ n? = some n ∧ m < n

theorem Sooner.asymm {m? n? : Option Int} (h : Sooner m? n?) (h' : Sooner n? m?) : False := by
  obtain ⟨m, n, rfl, rfl, hlt⟩ := h
  obtain ⟨m', n', hm, hn, hlt'⟩ := h'
  cases hm
  cases hn
  omega

variable {offset? : Json → Option Int} {nodes : List Json}

/-- **Positions ascend strictly** in the sorted list, if no two are the same. -/
theorem sooner_inOrder (hplaced : ∀ node ∈ nodes, (offset? node).isSome)
    (hdistinct : (nodes.map offset?).Nodup) :
    ((inOrder offset? nodes).map offset?).Pairwise Sooner := by
  obtain ⟨sorted, -, hsorted, hascends⟩ := inOrder_ascends hplaced
  have hne : ((inOrder offset? nodes).map offset?).Nodup :=
    ((inOrder_perm offset? nodes).map offset?).nodup_iff.2 hdistinct
  rw [hsorted, List.map_map, List.Nodup, List.pairwise_map] at hne
  rw [hsorted, List.map_map, List.pairwise_map]
  -- The stable sort breaks ties by place, and here there are none to break.
  apply (hascends.and hne).imp
  rintro a b ⟨⟨m, n, ha, hb, hle⟩, hab⟩
  refine ⟨m, n, ha, hb, hle.resolve_right ?_⟩
  rintro ⟨rfl, -⟩
  exact hab (ha.trans hb.symm)

/-- **There is one way to sort** nodes whose positions differ. -/
theorem inOrder_eq {sorted : List Json} (hperm : sorted.Perm nodes)
    (hplaced : ∀ node ∈ sorted, (offset? node).isSome)
    (hsooner : (sorted.map offset?).Pairwise Sooner) : inOrder offset? nodes = sorted := by
  have hdistinct : (nodes.map offset?).Nodup := by
    rw [← (hperm.map offset?).nodup_iff]
    apply hsooner.imp
    rintro m? n? hlt rfl
    exact hlt.asymm hlt
  have hboth := sooner_inOrder (fun node hnode => hplaced node (hperm.mem_iff.2 hnode)) hdistinct
  rw [List.pairwise_map] at hboth hsooner
  exact ((inOrder_perm offset? nodes).trans hperm.symm).eq_of_pairwise
    (fun a b _ _ hab hba => (hab.asymm hba).elim) hboth hsooner

end Json

namespace ObjectParser

open Json

/-! ## The likeness -/

/-- **A value as parsers print it**: no key comes twice, and what it spells as a name is a
text, or nothing. -/
structure IsRegular (p : ObjectParser) (node : Json) : Prop where
  keys : (node.members.map Prod.fst).Nodup
  name : (p.dialect.spelledName node).isTextOrNull = true

instance (p : ObjectParser) (node : Json) : Decidable (p.IsRegular node) :=
  decidable_of_iff _ ⟨fun h => ⟨h.1, h.2⟩, fun h => And.intro h.keys h.name⟩

/-- The children of the node all have positions, and no two the same. -/
structure IsSpread (p : ObjectParser) (node : Json) : Prop where
  placed : ∀ child ∈ p.dialect.toDialect.children node, (p.dialect.offset? child).isSome
  distinct : ((p.dialect.toDialect.children node).map p.dialect.offset?).Nodup

instance (p : ObjectParser) (node : Json) : Decidable (p.IsSpread node) :=
  decidable_of_iff _ ⟨fun h => ⟨h.1, h.2⟩, fun h => And.intro h.placed h.distinct⟩

/-- The first value is printed as parsers do, and the second is the same up to the order of
fields. -/
def Reprinted (p : ObjectParser) (a b : Json) : Prop := a.Reordered b ∧ a.Everywhere p.IsRegular

variable {p : ObjectParser} {a b : Json}

theorem isRegular_leaf (p : ObjectParser) {j : Json} (hj : j.isContainer = false) :
    p.IsRegular j where
  keys := by
    cases j with
    | obj _ => cases hj
    | _ => exact .nil
  name := by rw [p.spelledName_leaf hj]; rfl

/-- Regular lists that are rearranged item by item are reprinted item by item. -/
theorem forall₂_reprinted {items items' : List Json} (h : List.Forall₂ Reordered items items')
    (hregular : ∀ item ∈ items, item.Everywhere p.IsRegular) :
    List.Forall₂ p.Reprinted items items' :=
  ((List.forall₂_and_left _ _).2 ⟨hregular, h⟩).imp fun _ _ hitem => ⟨hitem.2, hitem.1⟩

/-- **No question sees the order of fields.** The keys are distinct, so a look-up finds the same
field. -/
theorem isLikeness_reprinted (p : ObjectParser) : p.IsLikeness p.Reprinted where
  leaf hj := ⟨.leaf hj, .of_not_isContainer hj (p.isRegular_leaf hj)⟩
  name h := h.2.here.name
  shape := by
    rintro a b ⟨horder, hregular⟩
    cases horder with
    | leaf hj => exact .leaf hj
    | list hitems => exact .list (forall₂_reprinted hitems fun _ hmem => hregular.of_mem_items hmem)
    | @object fields between fields' hvalues hperm =>
      have hlength : fields.length = fields'.length := hvalues.length_eq.trans hperm.length_eq
      have hnodup : (between.map Prod.fst).Nodup := by
        rw [← map_fst_of_sameKey hvalues]
        exact hregular.here.keys
      have hfields := sameKey_and_left (fun _ hmem => hregular.of_mem_fields hmem) hvalues
      -- The keys that are ignored keep their values too.
      refine .object ?_ fun key _ => ?_
      · rw [← List.length_eq_zero_iff, ← List.length_eq_zero_iff, hlength]
      · rw [field?, field?, ← lookup_eq_of_perm hperm hnodup]
        exact lookup_of_sameKey hfields _

/-! ## Children -/

/-- **The children** of values that differ in the order of fields differ in their order. -/
theorem children_reprinted (h : p.Reprinted a b) :
    ∃ between, List.Forall₂ p.Reprinted (p.dialect.toDialect.children a) between
      ∧ between.Perm (p.dialect.toDialect.children b) := by
  obtain ⟨horder, hregular⟩ := h
  cases horder with
  | leaf hj =>
    cases a with
    | arr _ | obj _ => cases hj
    | _ => exact ⟨[], .nil, .nil⟩
  | list hitems =>
    have hrelated := forall₂_reprinted hitems fun _ hmem => hregular.of_mem_items hmem
    exact ⟨_, p.isLikeness_reprinted.containers hrelated, .refl _⟩
  | @object fields between fields' hvalues hperm =>
    have hfields := sameKey_and_left (fun _ hmem => hregular.of_mem_fields hmem) hvalues
    -- The walk sorts the nodes of the fields; the order in which the nodes of the other
    -- object are related to these is one more permutation.
    obtain ⟨nodes, hnodes, hsame⟩ := List.perm_comp_forall₂ (inOrder_perm p.dialect.offset? _)
      (p.isLikeness_reprinted.occurrences hfields)
    exact ⟨nodes, hnodes,
      hsame.trans ((occurrences_perm hperm).trans (inOrder_perm p.dialect.offset? _).symm)⟩

theorem map_offset?_reprinted {nodes nodes' : List Json} (h : List.Forall₂ p.Reprinted nodes nodes') :
    nodes.map p.dialect.offset? = nodes'.map p.dialect.offset? :=
  map_eq_map_of_forall₂ (h.imp fun _ _ hnode => p.isLikeness_reprinted.offset? hnode)

/-- **The children stay in order** if their positions tell them apart. -/
theorem children_reprinted_of_isSpread (h : p.Reprinted a b) (hspread : p.IsSpread a) :
    List.Forall₂ p.Reprinted (p.dialect.toDialect.children a) (p.dialect.toDialect.children b) := by
  obtain ⟨between, hrelated, hperm⟩ := children_reprinted h
  have hregular := h.2
  cases h.1 with
  | leaf hj =>
    cases a with
    | arr _ | obj _ => cases hj
    | _ => exact .nil
  | list hitems =>
    exact p.isLikeness_reprinted.containers
      (forall₂_reprinted hitems fun _ hmem => hregular.of_mem_items hmem)
  | @object fields _ fields' _ _ =>
    -- The related nodes have the positions of the sorted children, so they are sorted as well,
    -- and being a permutation of the other children they are these in order.
    have hoccurrences := inOrder_perm p.dialect.offset? (occurrences fields)
    have hsooner : (between.map p.dialect.offset?).Pairwise Sooner := by
      rw [← map_offset?_reprinted hrelated]
      exact sooner_inOrder (fun node hnode => hspread.placed node (hoccurrences.mem_iff.2 hnode))
        ((hoccurrences.map _).nodup_iff.1 hspread.distinct)
    have hplaced : ∀ offset? ∈ between.map p.dialect.offset?, offset?.isSome := by
      rw [← map_offset?_reprinted hrelated]
      exact List.forall_mem_map.2 hspread.placed
    have hsorted : p.dialect.toDialect.children (.obj fields') = between :=
      inOrder_eq (hperm.trans (inOrder_perm p.dialect.offset? _)) (List.forall_mem_map.1 hplaced)
        hsooner
    rwa [hsorted]

/-! ## Walks -/

/-- **The nodes contribute the same links and failures**, in another order at most. -/
theorem map_link?_reprinted_perm (h : p.Reprinted a b) :
    ((p.dialect.toDialect.preorder a).map p.dialect.toDialect.link?).Perm
      ((p.dialect.toDialect.preorder b).map p.dialect.toDialect.link?) :=
  Dialect.map_link?_preorder_perm (fun _ _ => p.isLikeness_reprinted.link?_eq)
    (fun _ _ => children_reprinted) h

/-- **In the same order where positions tell the nodes apart.** -/
theorem map_link?_reprinted (h : p.Reprinted a b)
    (hspread : ∀ node ∈ p.dialect.toDialect.preorder a, p.IsSpread node) :
    (p.dialect.toDialect.preorder a).map p.dialect.toDialect.link?
      = (p.dialect.toDialect.preorder b).map p.dialect.toDialect.link? := by
  -- That the children are spread goes with the relation: the walk below a child is a part
  -- of the walk.
  let S : Json → Json → Prop := fun a b =>
    (∀ node ∈ p.dialect.toDialect.preorder a, p.IsSpread node) ∧ p.Reprinted a b
  refine Dialect.map_link?_preorder (S := S) (fun _ _ h => p.isLikeness_reprinted.link?_eq h.2) ?_
    ⟨hspread, h⟩
  rintro x y ⟨hbelow, hxy⟩
  rw [Dialect.preorder_eq, List.forall_mem_cons] at hbelow
  exact (List.forall₂_and_left _ _).2
    ⟨fun child hchild node hnode => hbelow.2 node (List.mem_flatMap.2 ⟨child, hchild, hnode⟩),
      children_reprinted_of_isSpread hxy hbelow.1⟩

end ObjectParser

/-! ## Surveys -/

namespace Dialect

variable {ν : Type} {d : Dialect ν} {nodes nodes' : List ν}

/-- What depends on the link of a node alone is put out in some other order. -/
theorem flatMap_perm_of_map_link? {α : Type} (out : ν → List α)
    (hout : ∀ a b, d.link? a = d.link? b → out a = out b)
    (h : (nodes.map d.link?).Perm (nodes'.map d.link?)) :
    (nodes.flatMap out).Perm (nodes'.flatMap out) := by
  obtain ⟨f, rfl⟩ := (Function.factorsThrough_iff out).1 fun a b => hout a b
  have hflat := h.flatMap_right f
  rwa [List.flatMap_map, List.flatMap_map] at hflat

/-- A search among nodes fails if there is nothing to be found in any of them. -/
theorem findSome?_eq_none_iff_flatMap {β : Type} (f : ν → Option β) :
    nodes.findSome? f = none ↔ nodes.flatMap (fun node => (f node).toList) = [] := by
  simp [List.findSome?_eq_none_iff, List.flatMap_eq_nil_iff]

/-- If the links are the same up to order, one list has a node that fails if the other one
does. -/
theorem findSome?_visitFailure?_eq_none_iff (h : (nodes.map d.link?).Perm (nodes'.map d.link?)) :
    nodes.findSome? d.visitFailure? = none ↔ nodes'.findSome? d.visitFailure? = none := by
  have hflat := flatMap_perm_of_map_link? (fun node => (d.visitFailure? node).toList)
    (fun a b hab => by simp only [visitFailure?, hab]) h
  rw [findSome?_eq_none_iff_flatMap, findSome?_eq_none_iff_flatMap]
  exact ⟨fun hnil => List.nil_perm.1 (hnil ▸ hflat), fun hnil => List.perm_nil.1 (hnil ▸ hflat)⟩

end Dialect

/-- **The same result up to order**: both fail, or both have the same links and the same log in
some order. -/
structure Logged.SameUpToOrder (x y : Logged (List Link)) : Prop where
  fails : (∃ e, x.outcome = .error e) ↔ ∃ e, y.outcome = .error e
  returns : ∀ links, x.outcome = .ok links →
    ∃ others, y.outcome = .ok others ∧ links.Perm others ∧ x.log.Perm y.log

/-- Trees whose nodes contribute the same in another order have surveys that differ in order only.
-/
theorem Dialect.sameUpToOrder_of_map_link? {ν : Type} (d : Dialect ν) (file : Json)
    {subject subject' : Subject} {a b : ν} (ha : d.root subject = .ok a) (hb : d.root subject' = .ok b)
    (h : ((d.preorder a).map d.link?).Perm ((d.preorder b).map d.link?)) :
    (d.survey file subject).SameUpToOrder (d.survey file subject') := by
  have hfails := findSome?_visitFailure?_eq_none_iff h
  have hlinks := flatMap_perm_of_map_link? d.visitLinks
    (fun a b hab => by simp only [visitLinks, hab]) h
  have hwarnings := flatMap_perm_of_map_link? d.visitWarnings
    (fun a b hab => by simp only [visitWarnings, hab]) h
  rw [d.survey_eq file ha, d.survey_eq file hb]
  cases hx : (d.preorder a).findSome? d.visitFailure? with
  | none =>
    have hy := hfails.1 hx
    refine ⟨by simp [hy, unlessFailed], fun links hok => ?_⟩
    rw [takeWhile_passes_of_findSome? hx, takeWhile_passes_of_findSome? hy, hy]
    cases hok
    exact ⟨_, rfl, hlinks, hwarnings.cons _⟩
  | some e =>
    cases hy : (d.preorder b).findSome? d.visitFailure? with
    | none => cases hx.symm.trans (hfails.2 hy)
    | some e' =>
      refine ⟨⟨fun _ => ⟨e', rfl⟩, fun _ => ⟨e, rfl⟩⟩, fun links hok => ?_⟩
      cases hok

/-- **The order of fields does not matter.** Two printings of a document that differ in the order
of the fields of any objects in it have the same result up to order, and the same result if the
children of all nodes have positions that tell them apart. -/
theorem survey_reordered (p : ObjectParser) (file document other root : Json)
    (hroot : p.dialect.root (.json document) = .ok root)
    (hregular : document.Everywhere p.IsRegular) (horder : document.Reordered other) :
    (p.dialect.toDialect.survey file (.json document)).SameUpToOrder
        (p.dialect.toDialect.survey file (.json other))
      ∧ ((∀ node ∈ p.dialect.toDialect.preorder root, p.IsSpread node) →
        p.dialect.toDialect.survey file (.json document)
          = p.dialect.toDialect.survey file (.json other)) := by
  obtain ⟨root', hroot', hrelated⟩ := p.isLikeness_reprinted.exists_root ⟨horder, hregular⟩ hroot
  exact ⟨p.dialect.toDialect.sameUpToOrder_of_map_link? file hroot hroot'
      (ObjectParser.map_link?_reprinted_perm hrelated),
    fun hspread => Dialect.survey_eq_of_map_link? file hroot hroot'
      (ObjectParser.map_link?_reprinted hrelated hspread)⟩

/-- The program again, with the fields of two of its objects in another order. -/
def rearrangedProgram : Json :=
  .obj [
    (Text.ofString "first",
      .obj [(Text.ofString "start", .int 0), (Text.ofString "type", .ofString "ImportDeclaration")]),
    (Text.ofString "last", lateStatement),
    (Text.ofString "start", .int 0),
    (Text.ofString "type", .ofString "Program")]

/-- The fields of the program and those inside them are in another order. -/
theorem reordered_rearrangedProgram : scrambledProgram.Reordered rearrangedProgram := by
  have hdeclaration : earlyDeclaration.Reordered
      (.obj [(Text.ofString "start", .int 0), (Text.ofString "type", .ofString "ImportDeclaration")]) :=
    .object (Json.forall₂_sameKey_refl _) (List.reverse_perm _).symm
  exact .object (.cons (.mk (.leaf rfl)) (.cons (.mk (.leaf rfl))
    (.cons (.mk (Json.reordered_refl lateStatement)) (.cons (.mk hdeclaration) .nil))))
    (List.reverse_perm _).symm

/-- Of the two items each has its own position. -/
theorem isSpread_scrambledProgram :
    ∀ node ∈ babel.toDialect.preorder scrambledProgram, ObjectParser.babel.IsSpread node := by
  have hchildren : ObjectParser.babel.dialect.toDialect.children scrambledProgram
      = [earlyDeclaration, lateStatement] := children_scrambledProgram
  have hroot : ObjectParser.babel.IsSpread scrambledProgram :=
    ⟨by rw [hchildren]; decide, by rw [hchildren]; decide⟩
  rw [Dialect.preorder_eq, List.forall_mem_cons]
  exact ⟨hroot, by rw [show babel.toDialect.children _ = _ from hchildren]; decide +kernel⟩

theorem survey_reordered_rearrangedProgram :
    babel.root (.json scrambledProgram) = .ok scrambledProgram
      ∧ scrambledProgram.Everywhere ObjectParser.babel.IsRegular
      ∧ scrambledProgram.Reordered rearrangedProgram
      ∧ babel.toDialect.survey .null (.json scrambledProgram)
        = babel.toDialect.survey .null (.json rearrangedProgram) := by
  have hregular : scrambledProgram.Everywhere ObjectParser.babel.IsRegular := by decide
  exact ⟨rfl, hregular, reordered_rearrangedProgram,
    (survey_reordered .babel .null scrambledProgram rearrangedProgram scrambledProgram rfl hregular
      reordered_rearrangedProgram).2 isSpread_scrambledProgram⟩

end ModuleLinks
