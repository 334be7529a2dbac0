import SlideDeck.Proofs.Xml.Plain

/-!
# Documents as trees

`readTrees?` reads a document as trees of elements with the text between them, which a scan leaves
out. It reads tags as a scan does, and the elements of its trees are those of the scan
(`scan_eq_of_readTrees?`). What is printed is read back (`readTrees?_document`), so that a printed
document has exactly the elements that were printed (`scan_document`).
-/

namespace SlideDeck.Xml

/-! ## Pieces of a document -/

/-- A piece of a document: a character of text or a tag. -/
inductive Piece where
  | char (c : Char)
  | tag (tag : Tag)

/-- The pieces of a document, and whether all of it was well formed. -/
structure Pieces where
  pieces : List Piece
  complete : Bool

/-- Further pieces before these. -/
def Pieces.after (before : List Piece) (rest : Pieces) : Pieces :=
  { rest with pieces := before ++ rest.pieces }

/-- Pieces put in front twice are put in front at once. -/
theorem Pieces.after_after (a b : List Piece) (rest : Pieces) :
    (rest.after b).after a = rest.after (a ++ b) := by
  simp [after]

/-- The pieces of a document in order, up to the first piece of markup that is not well formed. -/
def pieces (text : List Char) : Pieces :=
  match text with
  | [] => ⟨[], true⟩
  | c :: rest =>
    if c = '<' then
      if rest = [] then ⟨[], true⟩
      else match _h : markup? rest with
        | none => ⟨[], false⟩
        | some (tag, after) => (pieces after).after (tag.toList.map .tag)
    else (pieces rest).after [.char c]
termination_by text.length
decreasing_by
  · have := markup?_length _h
    simp only [List.length_cons]
    omega
  · simp

/-- The tag that a piece is. -/
def Piece.tag? : Piece → Option Tag
  | .char _ => none
  | .tag found => some found

/-- The tags of tags are these tags. -/
theorem filterMap_tag? (tags : List Tag) : (tags.map Piece.tag).filterMap Piece.tag? = tags := by
  induction tags with
  | nil => rfl
  | cons tag tags ih => simp [Piece.tag?, ih]

/-- Without the text, the pieces of a document are its tags. -/
theorem tags_eq_pieces (text : List Char) :
    tags text = ⟨(pieces text).pieces.filterMap Piece.tag?, (pieces text).complete⟩ := by
  fun_induction pieces text with
  | case1 => simp [tags]
  | case2 => simp [tags]
  | case3 rest hne hmarkup =>
    rw [tags, if_pos rfl, if_neg hne]
    split
    · rfl
    · next h => simp [hmarkup] at h
  | case4 rest hne tag after hmarkup ih =>
    rw [tags, if_pos rfl, if_neg hne]
    split
    · next h => simp [hmarkup] at h
    · next h =>
      rw [hmarkup] at h
      obtain ⟨rfl, rfl⟩ : tag = _ ∧ after = _ := by simpa using h
      rw [ih]
      simp only [Tags.cons, Pieces.after, List.filterMap_append, filterMap_tag?]
  | case5 c rest hc ih =>
    rw [tags, if_neg hc, ih]
    simp [Pieces.after, List.filterMap_cons, Piece.tag?]

/-- A character other than an angle is a piece. -/
theorem pieces_char {c : Char} (hc : c ≠ '<') (rest : List Char) :
    pieces (c :: rest) = (pieces rest).after [.char c] := by
  rw [pieces, if_neg hc]

/-- Markup is a piece when it is a tag, and none otherwise. -/
theorem pieces_markup {rest after : List Char} {tag : Option Tag}
    (h : markup? rest = some (tag, after)) :
    pieces ('<' :: rest) = (pieces after).after (tag.toList.map .tag) := by
  have hne : rest ≠ [] := by
    rintro rfl
    simp [markup?, takeTag] at h
  rw [pieces, if_pos rfl, if_neg hne]
  split
  · next h' => simp [h] at h'
  · next h' =>
    rw [h] at h'
    obtain ⟨rfl, rfl⟩ : tag = _ ∧ after = _ := by simpa using h'
    rfl

/-- Text without an angle is a piece for each character. -/
theorem pieces_text {text : List Char} (h : '<' ∉ text) (rest : List Char) :
    pieces (text ++ rest) = (pieces rest).after (text.map .char) := by
  induction text with
  | nil => simp [Pieces.after]
  | cons c text ih =>
    rw [List.mem_cons, not_or] at h
    rw [List.cons_append, pieces_char (Ne.symm h.1), ih h.2, Pieces.after_after]
    rfl

/-! ## Trees -/

/-- A character of text, or an element with what it holds. -/
inductive Tree where
  | char (c : Char)
  | element (start : Element) (children : List Tree)

/-- The trees of pieces, with the elements that are open before them, the innermost first, each with
the trees before it, and the trees before the pieces. These are all in reverse. -/
def growTrees? (opened : List (Element × List Tree)) (done : List Tree) :
    List Piece → Option (List Tree)
  | [] => if opened.isEmpty then some done.reverse else none
  | .char c :: rest => growTrees? opened (.char c :: done) rest
  | .tag (.opening start) :: rest => growTrees? ((start, done) :: opened) [] rest
  | .tag (.empty start) :: rest => growTrees? opened (.element start [] :: done) rest
  | .tag (.closing name) :: rest =>
    match opened with
    | [] => none
    | (start, before) :: opened =>
      if name = start.name then growTrees? opened (.element start done.reverse :: before) rest
      else none

/-- The trees of a document, if all of it is well formed and every element ends. -/
def readTrees? (text : String) : Option (List Tree) :=
  let found := pieces text.toList
  if found.complete then growTrees? [] [] found.pieces else none

mutual

/-- The elements of a tree in the order of their start tags. -/
def Tree.elements : Tree → List Element
  | .char _ => []
  | .element start children => start :: allElements children

/-- The elements of trees in the order of their start tags. -/
def allElements : List Tree → List Element
  | [] => []
  | tree :: rest => tree.elements ++ allElements rest

end

/-- The elements of two lists are those of each. -/
theorem allElements_append (a b : List Tree) :
    allElements (a ++ b) = allElements a ++ allElements b := by
  induction a with
  | nil => simp [allElements]
  | cons tree rest ih => simp [allElements, ih]

/-- The elements that start before some place: those of what is done there, behind the elements that
are still open with what precedes each of them. -/
def elementsBefore : List (Element × List Tree) → List Tree → List Element
  | [], done => allElements done.reverse
  | (start, before) :: opened, done =>
    elementsBefore opened before ++ start :: allElements done.reverse

/-- The elements of the tree that is done last come last. -/
theorem elementsBefore_cons (opened : List (Element × List Tree)) (done : List Tree) (tree : Tree) :
    elementsBefore opened (tree :: done) = elementsBefore opened done ++ tree.elements := by
  cases opened <;> simp [elementsBefore, allElements_append, allElements]

/-- Growing trees takes the elements that nesting takes. -/
theorem nest_of_growTrees? {opened : List (Element × List Tree)} {done trees : List Tree}
    {parts : List Piece} (h : growTrees? opened done parts = some trees) :
    ∃ elements, nest (opened.map (·.1.name)) true (parts.filterMap Piece.tag?) = ⟨elements, true⟩ ∧
      allElements trees = elementsBefore opened done ++ elements := by
  -- both readers keep the open elements; the tree reader also what precedes each of them
  induction parts generalizing opened done with
  | nil =>
    rw [growTrees?] at h
    split at h
    · next hopened =>
      obtain rfl := List.isEmpty_iff.1 hopened
      obtain rfl := Option.some.inj h
      exact ⟨[], rfl, by simp [elementsBefore]⟩
    · cases h
  | cons part parts ih =>
    match part with
    | .char c =>
      obtain ⟨elements, hnest, heq⟩ := ih h
      refine ⟨elements, hnest, ?_⟩
      rw [heq, elementsBefore_cons, Tree.elements, List.append_nil]
    | .tag (.opening start) =>
      obtain ⟨elements, hnest, heq⟩ := ih (by simpa only [growTrees?] using h)
      refine ⟨start :: elements, ?_, ?_⟩
      · rw [List.map_cons] at hnest
        simp only [List.filterMap_cons, Piece.tag?, nest, hnest, Scan.cons]
      · simp [heq, elementsBefore, allElements]
    | .tag (.empty start) =>
      obtain ⟨elements, hnest, heq⟩ := ih (by simpa only [growTrees?] using h)
      refine ⟨start :: elements, ?_, ?_⟩
      · simp only [List.filterMap_cons, Piece.tag?, nest, hnest, Scan.cons]
      · simp [heq, elementsBefore_cons, Tree.elements, allElements]
    | .tag (.closing name) =>
      match opened, h with
      | (start, before) :: opened, h =>
        rw [growTrees?] at h
        split at h
        · next hname =>
          obtain ⟨elements, hnest, heq⟩ := ih h
          refine ⟨elements, ?_, ?_⟩
          · simp only [List.filterMap_cons, Piece.tag?, List.map_cons, nest, hname, ite_true, hnest]
          · rw [heq, elementsBefore_cons, Tree.elements, elementsBefore]
        · cases h

/-- A document that can be read as trees is scanned completely, and has the elements of its trees. -/
theorem scan_eq_of_readTrees? {text : String} {trees : List Tree} (h : readTrees? text = some trees) :
    scan text = ⟨allElements trees, true⟩ := by
  simp only [readTrees?] at h
  split at h
  · next hcomplete =>
    obtain ⟨elements, hnest, heq⟩ := nest_of_growTrees? h
    rw [List.map_nil] at hnest
    rw [scan, tags_eq_pieces]
    simp only [hcomplete, hnest, heq, elementsBefore, List.reverse_nil, allElements, List.nil_append]
  · cases h

/-! ## Printed documents -/

/-- The element that a start tag with these attributes is read as. -/
def startOf (name : String) (attributes : List Attribute) : Element :=
  ⟨name.toList, attributes.flatMap Attribute.chars⟩

mutual

/-- The pieces of a printed piece of a document. -/
def Node.pieces : Node → List Piece
  | .text content => (escape content.toList).map .char
  | .empty name attributes => [.tag (.empty (startOf name attributes))]
  | .element name attributes children =>
    .tag (.opening (startOf name attributes)) ::
      (allNodePieces children ++ [.tag (.closing name.toList)])

/-- The pieces of printed pieces of a document. -/
def allNodePieces : List Node → List Piece
  | [] => []
  | node :: rest => node.pieces ++ allNodePieces rest

end

mutual

/-- The trees that a printed piece of a document is read as. -/
def Node.trees : Node → List Tree
  | .text content => (escape content.toList).map .char
  | .empty name attributes => [.element (startOf name attributes) []]
  | .element name attributes children => [.element (startOf name attributes) (allTrees children)]

/-- The trees that printed pieces of a document are read as. -/
def allTrees : List Node → List Tree
  | [] => []
  | node :: rest => node.trees ++ allTrees rest

end

/-- The trees of two lists are those of each. -/
theorem allTrees_append (a b : List Node) : allTrees (a ++ b) = allTrees a ++ allTrees b := by
  induction a with
  | nil => simp [allTrees]
  | cons node rest ih => simp [allTrees, ih]

/-- What follows the `<` of a start tag is read as a tag. -/
theorem markup?_eq_takeTag {name : String} (hname : isName name.toList = true)
    (attributes : List Attribute) (rest : List Char) :
    markup? (openingChars name attributes ++ rest)
      = (takeTag none (openingChars name attributes ++ rest)).map
          fun (content, after) => (some (tagOf content), after) := by
  obtain ⟨first, tail, hcons, hchars, hbang, hquery⟩ := isName_iff.1 hname
  have hslash : first ≠ '/' :=
    ne_of_isNameChar (hchars first (hcons ▸ List.mem_cons_self)) (by decide)
  -- a name does not start as an end tag, a declaration or an instruction does
  rw [openingChars, hcons, List.cons_append, List.cons_append, markup?]
  · exact fun _ h => hbang (List.cons.inj h).1
  · exact fun _ h => hquery (List.cons.inj h).1
  · exact fun _ h => hslash (List.cons.inj h).1

/-- A plain opening tag is read back as it was written. -/
theorem markup?_opening {name : String} {attributes : List Attribute}
    (hname : isName name.toList = true) (hattributes : arePlain attributes = true)
    (rest : List Char) :
    markup? (openingChars name attributes ++ '>' :: rest)
      = some (some (.opening (startOf name attributes)), rest) := by
  rw [markup?_eq_takeTag hname, takeTag_opening hname hattributes]
  simp [takeTag, tagOf_opening hname, startOf]

/-- So is a plain empty tag. -/
theorem markup?_empty {name : String} {attributes : List Attribute}
    (hname : isName name.toList = true) (hattributes : arePlain attributes = true)
    (rest : List Char) :
    markup? (openingChars name attributes ++ '/' :: '>' :: rest)
      = some (some (.empty (startOf name attributes)), rest) := by
  rw [markup?_eq_takeTag hname, takeTag_opening hname hattributes]
  simp [takeTag, tagOf_empty hname, startOf]

/-- So is a closing tag. -/
theorem markup?_closing {name : List Char} (hname : isName name = true) (rest : List Char) :
    markup? ('/' :: (name ++ '>' :: rest)) = some (some (.closing name), rest) := by
  have hangle : ∀ c ∈ name, (c != '>') = true := fun c hc => by
    rw [bne_iff_ne]
    exact ne_of_isNameChar (nameChars_of_isName hname c hc) (by decide)
  have hblank : ∀ c ∈ name.reverse.head?, isSpace c = false := fun c hc =>
    isSpace_eq_false_of_isNameChar
      (nameChars_of_isName hname c (List.mem_reverse.1 (List.mem_of_head? hc)))
  have hdrop : name.reverse.dropWhile isSpace = name.reverse := by
    cases hreverse : name.reverse with
    | nil => rfl
    | cons last before => simp [hblank last (by simp [hreverse])]
  have hne : name ≠ [] := by
    obtain ⟨_, _, rfl, _, _, _⟩ := isName_iff.1 hname
    simp
  -- a name ends in no blank, so that nothing is cut off it
  have hclosing : closingName name = name := by
    simp only [closingName, hdrop, List.reverse_reverse]
    rw [if_neg (by simpa using hne)]
  rw [markup?, takeAngle, List.takeWhile_append_of_pos hangle, List.dropWhile_append_of_pos hangle]
  simp [hclosing]

mutual

/-- A printed piece of a document that can be read back is read as its pieces. -/
theorem pieces_node (node : Node) (h : node.isPlain = true) (rest : List Char) :
    pieces (node.chars ++ rest) = (pieces rest).after node.pieces := by
  match node with
  | .text content =>
    rw [Node.chars, Node.pieces]
    exact pieces_text (not_mem_escape (.inl rfl) _) rest
  | .empty name attributes =>
    rw [Node.isPlain, Bool.and_eq_true] at h
    have hmarkup := markup?_empty h.1 h.2 rest
    rw [Node.chars, List.cons_append, List.append_assoc]
    exact pieces_markup hmarkup
  | .element name attributes children =>
    rw [Node.isPlain, Bool.and_eq_true, Bool.and_eq_true] at h
    obtain ⟨⟨hname, hattributes⟩, hchildren⟩ := h
    have hchars : (Node.element name attributes children).chars ++ rest
        = '<' :: (openingChars name attributes ++
          '>' :: (allChars children ++ '<' :: ('/' :: (name.toList ++ '>' :: rest)))) := by
      simp [Node.chars]
    rw [hchars, pieces_markup (markup?_opening hname hattributes _),
      pieces_allChars children hchildren, pieces_markup (markup?_closing hname rest),
      Pieces.after_after, Pieces.after_after]
    simp [Node.pieces]

/-- Plain nodes are read back in the pieces they are made of. -/
theorem pieces_allChars (nodes : List Node) (h : allPlain nodes = true) (rest : List Char) :
    pieces (allChars nodes ++ rest) = (pieces rest).after (allNodePieces nodes) := by
  match nodes with
  | [] => simp [allChars, allNodePieces, Pieces.after]
  | node :: nodes =>
    rw [allPlain, Bool.and_eq_true] at h
    rw [allChars, List.append_assoc, pieces_node node h.1, pieces_allChars nodes h.2,
      Pieces.after_after, allNodePieces]

end

/-- Characters grow into trees of their own. -/
theorem growTrees?_text (opened : List (Element × List Tree)) (done : List Tree) (text : List Char)
    (rest : List Piece) : growTrees? opened done (text.map .char ++ rest)
      = growTrees? opened ((text.map .char).reverse ++ done) rest := by
  induction text generalizing done with
  | nil => rfl
  | cons c text ih =>
    rw [List.map_cons, List.cons_append, growTrees?, ih]
    simp

mutual

/-- The pieces of a printed piece of a document grow into its trees. -/
theorem growTrees?_node (node : Node) (opened : List (Element × List Tree)) (done : List Tree)
    (rest : List Piece) : growTrees? opened done (node.pieces ++ rest)
      = growTrees? opened (node.trees.reverse ++ done) rest := by
  match node with
  | .text content => exact growTrees?_text opened done _ rest
  | .empty name attributes => rfl
  | .element name attributes children =>
    rw [Node.pieces, List.cons_append, growTrees?, List.append_assoc, growTrees?_nodes children]
    simp [growTrees?, startOf, Node.trees]

/-- The pieces of nodes grow into their trees. -/
theorem growTrees?_nodes (nodes : List Node) (opened : List (Element × List Tree))
    (done : List Tree) (rest : List Piece) :
    growTrees? opened done (allNodePieces nodes ++ rest)
      = growTrees? opened ((allTrees nodes).reverse ++ done) rest := by
  match nodes with
  | [] => rfl
  | node :: nodes =>
    rw [allNodePieces, List.append_assoc, growTrees?_node node, growTrees?_nodes nodes, allTrees]
    simp

end

/-- The declaration of a document is no tag. -/
theorem pieces_declaration (rest : List Char) :
    pieces (declaration.toList ++ rest) = pieces rest := by
  have hinstruction : markup? ((declaration.toList.drop 1) ++ rest) = some (none, rest) := by
    have hcontent : declaration.toList.drop 1
        = '?' :: (("xml version=\"1.0\" encoding=\"UTF-8\" standalone=\"yes\"?").toList ++ ['>']) := by
      decide
    have hinside := List.all_eq_true.1 (show ("xml version=\"1.0\" encoding=\"UTF-8\" standalone=\"yes\"?").toList.all
      (· != '>') = true by decide)
    rw [hcontent, List.cons_append, List.append_assoc, markup?, skipInstruction?, takeAngle,
      List.takeWhile_append_of_pos hinside, List.dropWhile_append_of_pos hinside]
    simp
  have hstart : declaration.toList = '<' :: declaration.toList.drop 1 := by decide
  rw [hstart, List.cons_append, pieces_markup hinstruction]
  simp [Pieces.after]

/-- The pieces of a printed document are those of its root. -/
theorem pieces_document {root : Node} (h : root.isPlain = true) :
    pieces (document root).toList = ⟨root.pieces, true⟩ := by
  have hroot := pieces_node root h []
  rw [List.append_nil] at hroot
  rw [document, String.toList_ofList, pieces_declaration, hroot]
  simp [pieces, Pieces.after]

/-- A printed document is read back as the trees of its root. -/
theorem readTrees?_document {root : Node} (h : root.isPlain = true) :
    readTrees? (document root) = some root.trees := by
  have hgrow := growTrees?_node root [] [] []
  rw [List.append_nil] at hgrow
  simp [readTrees?, pieces_document h, hgrow, growTrees?]

/-- A printed document has exactly the elements that were printed. -/
theorem scan_document {root : Node} (h : root.isPlain = true) :
    scan (document root) = ⟨allElements root.trees, true⟩ :=
  scan_eq_of_readTrees? (readTrees?_document h)

/-! ## Attributes of printed elements -/

/-- An attribute of a printed element is the one with its name, with the entities of its value read. -/
theorem attribute?_startOf {attributes : List Attribute} (h : arePlain attributes = true)
    (name key : String) : (startOf name attributes).attribute? key
      = (attributes.find? (·.name == key)).bind
          fun a => (unescape? a.written.toList).map String.ofList := by
  have hlookup : (attributes.map fun a => (a.name.toList, a.written.toList)).lookup key.toList
      = (attributes.find? (·.name == key)).map fun a => a.written.toList := by
    -- names are compared as texts on one side and as characters on the other
    clear h
    induction attributes with
    | nil => rfl
    | cons a attributes ih =>
      rw [List.map_cons, List.lookup_cons, List.find?_cons]
      by_cases ha : a.name = key
      · simp [ha]
      · have hkey : (key.toList == a.name.toList) = false :=
          beq_eq_false_iff_ne.2 fun heq => ha (String.toList_inj.1 heq).symm
        simp only [hkey, beq_eq_false_iff_ne.2 ha, ih]
  rw [Element.attribute?, Element.attributes, startOf, readAttributes_chars h, hlookup]
  cases attributes.find? (·.name == key) with
  | none => rfl
  | some a =>
    cases hvalue : unescape? a.written.toList <;> simp [hvalue]

end SlideDeck.Xml
