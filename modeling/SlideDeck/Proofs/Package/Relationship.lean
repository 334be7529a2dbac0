import Mathlib.Data.List.Forall2
import SlideDeck.Package.Relationship
import SlideDeck.Proofs.Xml.Tree

/-!
# Relationships are read back

What `Relationship.listXml` writes, `Relationship.ofXml` reads: the relationships in the same order,
without the control characters that a document cannot carry (`ofXml_listXml`), and as they were if they
have none of these (`ofXml_listXml_of_isCarried`). `readBack_listXml` says so by the characters of their
texts.
-/

namespace SlideDeck

namespace Relationship

open Xml (carried IsCarried)

/-- A relationship as it is read back. -/
def carried (r : Relationship) : Relationship :=
  { r with id := Xml.carried r.id, type := Xml.carried r.type, target := Xml.carried r.target }

/-- Whether a document can carry all texts of a relationship. -/
def IsCarried (r : Relationship) : Prop :=
  Xml.IsCarried r.id ∧ Xml.IsCarried r.type ∧ Xml.IsCarried r.target

/-- A relationship that a document carries whole stays what it is. -/
theorem carried_eq_self {r : Relationship} (h : r.IsCarried) : r.carried = r := by
  obtain ⟨hid, htype, htarget⟩ := h
  simp only [carried, Xml.carried_eq_self hid, Xml.carried_eq_self htype, Xml.carried_eq_self htarget]

/-- The attributes of a relationship. -/
def attributes (r : Relationship) : List Xml.Attribute :=
  [.escaped "Id" r.id, .escaped "Type" r.type, .escaped "Target" r.target] ++
    if r.external then [.escaped "TargetMode" "External"] else []

/-- The attributes of a relationship can be read again, as their values are escaped. -/
theorem arePlain_attributes (r : Relationship) : Xml.arePlain r.attributes = true := by
  have hname : ∀ name ∈ ["Id", "Type", "Target", "TargetMode"],
      Xml.isName name.toList = true := by decide
  rw [Xml.arePlain, Bool.and_eq_true, List.all_eq_true, decide_eq_true_eq]
  constructor
  · intro a ha
    simp only [attributes, List.mem_append, List.mem_cons, List.not_mem_nil, or_false] at ha
    rcases ha with (rfl | rfl | rfl) | ha
    · exact Xml.Attribute.isPlain_escaped (hname _ (by simp)) _
    · exact Xml.Attribute.isPlain_escaped (hname _ (by simp)) _
    · exact Xml.Attribute.isPlain_escaped (hname _ (by simp)) _
    · split at ha
      · rw [List.mem_singleton] at ha
        subst ha
        exact Xml.Attribute.isPlain_escaped (hname _ (by simp)) _
      · exact absurd ha List.not_mem_nil
  · unfold attributes
    split <;> simp [Xml.Attribute.escaped]

/-- A relationship is read from its element as what a document carries of it. -/
theorem ofElement_attributes (r : Relationship) :
    ofElement (Xml.startOf "Relationship" r.attributes) = r.carried := by
  have hplain := arePlain_attributes r
  have hmode : String.ofList (['E', 'x', 't', 'e', 'r', 'n', 'a', 'l'].filter Xml.isCarried)
      = "External" := by decide
  simp only [ofElement, field, Xml.attribute?_startOf hplain]
  cases hexternal : r.external <;>
    simp [attributes, hexternal, Xml.Attribute.escaped, Xml.unescape?_escape, Xml.filter_isCarried, carried,
      hmode]

/-- The root element of the part that lists relationships. -/
def listNode (relationships : List Relationship) : Xml.Node :=
  .element "Relationships"
    [⟨"xmlns", "http://schemas.openxmlformats.org/package/2006/relationships"⟩]
    (relationships.map node)

/-- The list of relationships can be read again. -/
theorem isPlain_listNode (relationships : List Relationship) :
    (listNode relationships).isPlain = true := by
  have hname : Xml.isName "Relationship".toList = true := by decide
  have hroot : Xml.isName "Relationships".toList = true := by decide
  have hspace : Xml.arePlain
      [⟨"xmlns", "http://schemas.openxmlformats.org/package/2006/relationships"⟩] = true := by
    decide
  rw [listNode, Xml.Node.isPlain, hroot, hspace, Bool.true_and, Bool.true_and,
    Xml.allPlain_eq_true_iff]
  intro child hchild
  obtain ⟨r, -, rfl⟩ := List.mem_map.1 hchild
  show (Xml.Node.empty "Relationship" r.attributes).isPlain = true
  rw [Xml.Node.isPlain, hname, arePlain_attributes, Bool.and_self]

/-- The elements in the list are those of the relationships, in their order. -/
theorem allTrees_map_node (relationships : List Relationship) :
    Xml.allElements (Xml.allTrees (relationships.map node))
      = relationships.map fun r => Xml.startOf "Relationship" r.attributes := by
  induction relationships with
  | nil => rfl
  | cons r rest ih =>
    rw [List.map_cons, Xml.allTrees, Xml.allElements_append, ih]
    rfl

/-- A list of relationships is read back in its order, each without what a document cannot carry. -/
theorem ofXml_listXml (relationships : List Relationship) :
    ofXml (listXml relationships) = .ok (relationships.map carried) := by
  have hscan := Xml.scan_document (isPlain_listNode relationships)
  have hroot : (Xml.startOf "Relationships"
      [⟨"xmlns", "http://schemas.openxmlformats.org/package/2006/relationships"⟩]).isNamed
        "Relationship" = false := by decide
  have hentry : ∀ r : Relationship,
      (Xml.startOf "Relationship" r.attributes).isNamed "Relationship" = true := fun _ => rfl
  have helements : Xml.allElements (listNode relationships).trees
      = Xml.startOf "Relationships"
          [⟨"xmlns", "http://schemas.openxmlformats.org/package/2006/relationships"⟩] ::
        relationships.map fun r => Xml.startOf "Relationship" r.attributes := by
    rw [← allTrees_map_node]
    simp [listNode, Xml.Node.trees, Xml.allElements, Xml.Tree.elements]
  have hfilter : (relationships.map fun r => Xml.startOf "Relationship" r.attributes).filter
      (·.isNamed "Relationship") = relationships.map fun r => Xml.startOf "Relationship" r.attributes := by
    rw [List.filter_eq_self]
    intro e he
    obtain ⟨r, -, rfl⟩ := List.mem_map.1 he
    exact hentry r
  have hlist : listXml relationships = Xml.document (listNode relationships) := rfl
  rw [hlist, ofXml]
  simp only [hscan, helements, List.filter_cons, hroot, Bool.false_eq_true, ite_false, ite_true, hfilter,
    List.map_map]
  refine congrArg Except.ok (List.map_congr_left fun r _ => ofElement_attributes r)

/-- Relationships that a document can carry are read back as they were. -/
theorem ofXml_listXml_of_isCarried {relationships : List Relationship}
    (h : ∀ r ∈ relationships, r.IsCarried) :
    ofXml (listXml relationships) = .ok relationships := by
  have hsame : relationships.map carried = relationships := by
    rw [List.map_congr_left fun r hr => carried_eq_self (h r hr), List.map_id']
  rw [ofXml_listXml, hsame]

/-! ## What is lost on the way -/

/-- A relationship and what is read of it: each text has lost its control characters and nothing else. -/
structure ReadBack (r found : Relationship) : Prop where
  id : found.id.toList = r.id.toList.filter fun c => !Xml.isControl c
  type : found.type.toList = r.type.toList.filter fun c => !Xml.isControl c
  target : found.target.toList = r.target.toList.filter fun c => !Xml.isControl c
  external : found.external = r.external

/-- What a document carries of a relationship is what is to be read of it. -/
theorem readBack_carried (r : Relationship) : ReadBack r r.carried where
  id := Xml.toList_carried r.id
  type := Xml.toList_carried r.type
  target := Xml.toList_carried r.target
  external := rfl

/-- Whether no text of a relationship has a control character. -/
def HasNoControl (r : Relationship) : Prop :=
  ∀ text ∈ [r.id, r.type, r.target], ∀ c ∈ text.toList, Xml.isControl c = false

instance (r : Relationship) : Decidable r.HasNoControl :=
  decidable_of_iff ([r.id, r.type, r.target].all (fun text => text.toList.all (!Xml.isControl ·)) = true)
    (by simp [HasNoControl])

/-- Without control characters, all of a relationship is carried. -/
theorem HasNoControl.isCarried {r : Relationship} (h : r.HasNoControl) : r.IsCarried := by
  have htext : ∀ text ∈ [r.id, r.type, r.target], Xml.IsCarried text := by
    intro text htext c hc
    rw [Xml.isCarried_eq_not_isControl, h text htext c hc, Bool.not_false]
  exact ⟨htext _ (by simp), htext _ (by simp), htext _ (by simp)⟩

/-- Every list of relationships is read back: as many, in their order, each without its control characters;
and a list without any is the list that is read. -/
theorem readBack_listXml (relationships : List Relationship) :
    (∃ found, ofXml (listXml relationships) = .ok found ∧
      List.Forall₂ ReadBack relationships found) ∧
    ((∀ r ∈ relationships, r.HasNoControl) → ofXml (listXml relationships) = .ok relationships) := by
  constructor
  · refine ⟨_, ofXml_listXml relationships, ?_⟩
    rw [List.forall₂_map_right_iff, List.forall₂_same]
    intro r _
    exact readBack_carried r
  · intro h
    exact ofXml_listXml_of_isCarried fun r hr => (h r hr).isCarried

/-- Markup, quotes, what looks like an entity and line breaks come back as they were. -/
theorem readBack_markup :
    let markup : Relationship := ⟨"a\"b'", "<t x='1'/>", "&lt;&amp;\n\r/>", true⟩
    ofXml (listXml [markup]) = .ok [markup] := by
  intro markup
  have hmarkup : markup.HasNoControl := by decide
  exact (readBack_listXml [markup]).2 (List.forall_mem_singleton.2 hmarkup)

end Relationship

end SlideDeck
