import SlideDeck.Proofs.Text.Search
import SlideDeck.Proofs.Xml.Tree

/-!
# Editing the text of documents

What an edit of the text of a document does to the trees that are read from it. Where a place of the
text is between two pieces of the document (`EndsBetween`), printed trees can be replaced by others
(`readTrees?_replace`), and printed trees can be put in front of an end tag, which makes them the last
ones in its element (`readTrees?_insert`). In both cases all other trees stay as they are, which
`Replaced` says of the trees before and after the edit.
-/

namespace SlideDeck.Xml

/-! ## Elements with a name -/

mutual

/-- What the elements with a name hold, each on its own, in the order of their start tags. -/
def Tree.held (name : List Char) : Tree → List (List Tree)
  | .char _ => []
  | .element start children =>
    (if start.name = name then [children] else []) ++ allHeld name children

/-- What the elements with a name hold at any depth, in the order of their start tags. -/
def allHeld (name : List Char) : List Tree → List (List Tree)
  | [] => []
  | tree :: rest => tree.held name ++ allHeld name rest

end

mutual

/-- A tree without the elements that have a name, and without all that these hold. -/
def Tree.without (name : List Char) : Tree → List Tree
  | .char c => [.char c]
  | .element start children =>
    if start.name = name then [] else [.element start (allWithout name children)]

/-- Trees without the elements that have a name, and without all that these hold. -/
def allWithout (name : List Char) : List Tree → List Tree
  | [] => []
  | tree :: rest => tree.without name ++ allWithout name rest

end

/-- What two lists hold is what each holds. -/
theorem allHeld_append (name : List Char) (a b : List Tree) :
    allHeld name (a ++ b) = allHeld name a ++ allHeld name b := by
  induction a with
  | nil => rfl
  | cons tree a ih => rw [List.cons_append, allHeld, allHeld, ih, List.append_assoc]

/-- What is left of two lists is what is left of each. -/
theorem allWithout_append (name : List Char) (a b : List Tree) :
    allWithout name (a ++ b) = allWithout name a ++ allWithout name b := by
  induction a with
  | nil => rfl
  | cons tree a ih => rw [List.cons_append, allWithout, allWithout, ih, List.append_assoc]

/-- An element of the name holds its children, and what they hold. -/
theorem held_of_name_eq {name : List Char} {start : Element} (h : start.name = name)
    (children : List Tree) :
    (Tree.element start children).held name = children :: allHeld name children := by
  rw [Tree.held, if_pos h, List.singleton_append]

/-- An element of another name holds what its children hold. -/
theorem held_of_name_ne {name : List Char} {start : Element} (h : start.name ≠ name)
    (children : List Tree) : (Tree.element start children).held name = allHeld name children := by
  rw [Tree.held, if_neg h, List.nil_append]

/-- The same for a list of one element. -/
theorem allHeld_singleton {name : List Char} {start : Element} (h : start.name = name)
    (children : List Tree) :
    allHeld name [.element start children] = children :: allHeld name children := by
  rw [allHeld, held_of_name_eq h, allHeld, List.append_nil]

/-- Without the element nothing is left of that list. -/
theorem allWithout_singleton {name : List Char} {start : Element} (h : start.name = name)
    (children : List Tree) : allWithout name [.element start children] = [] := by
  rw [allWithout, Tree.without, if_pos h, allWithout, List.append_nil]

/-! ## Trees that differ in one place -/

/-- The second trees are the first ones with some of them, neighbours at any depth, replaced. -/
inductive Replaced (old new : List Tree) : List Tree → List Tree → Prop where
  | here (before after : List Tree) : Replaced old new (before ++ old ++ after) (before ++ new ++ after)
  | inside (before : List Tree) (start : Element) {children children' : List Tree} (after : List Tree)
      (h : Replaced old new children children') :
      Replaced old new (before ++ .element start children :: after)
        (before ++ .element start children' :: after)

namespace Replaced

variable {old new trees trees' : List Tree}

/-- A tree behind both lists leaves the replacement as it is. -/
theorem concat (h : Replaced old new trees trees') (tree : Tree) :
    Replaced old new (trees ++ [tree]) (trees' ++ [tree]) := by
  cases h with
  | here before after =>
    rw [List.append_assoc _ after, List.append_assoc _ after]
    exact .here before (after ++ [tree])
  | inside before start after h =>
    rw [List.append_assoc, List.append_assoc, List.cons_append, List.cons_append]
    exact .inside before start (after ++ [tree]) h

/-- Apart from what is replaced, there are as many elements with a name as before. -/
theorem length_held (h : Replaced old new trees trees') (name : List Char) :
    ∃ n, (allHeld name trees).length = n + (allHeld name old).length ∧
      (allHeld name trees').length = n + (allHeld name new).length := by
  induction h with
  | here before after =>
    refine ⟨(allHeld name before).length + (allHeld name after).length, ?_⟩
    simp only [allHeld_append, List.length_append]
    omega
  | inside before start after _ ih =>
    obtain ⟨n, hold, hnew⟩ := ih
    -- the element around the place has the name or not, before and after alike
    refine ⟨(allHeld name before).length + (if start.name = name then 1 else 0) + n
      + (allHeld name after).length, ?_⟩
    by_cases hname : start.name = name
    · simp only [allHeld_append, allHeld, held_of_name_eq hname, List.length_append, List.length_cons,
        hold, hnew, if_pos hname]
      omega
    · simp only [allHeld_append, allHeld, held_of_name_ne hname, List.length_append, hold, hnew,
        if_neg hname]
      omega

/-- If the elements with a name are all among what is replaced, they are afterwards all among what
replaces it. -/
theorem held_eq (h : Replaced old new trees trees') (name : List Char)
    (hall : (allHeld name trees).length ≤ (allHeld name old).length) :
    allHeld name trees = allHeld name old ∧ allHeld name trees' = allHeld name new := by
  induction h with
  | here before after =>
    -- there is no room for an element with the name beside what is replaced
    simp only [allHeld_append, List.length_append] at hall ⊢
    have hbefore : allHeld name before = [] := List.length_eq_zero_iff.1 (by omega)
    have hafter : allHeld name after = [] := List.length_eq_zero_iff.1 (by omega)
    simp [hbefore, hafter]
  | inside before start after hchildren ih =>
    obtain ⟨n, hlength, -⟩ := hchildren.length_held name
    simp only [allHeld_append, allHeld, List.length_append] at hall ⊢
    -- nor is the element around it one, since that would be one more
    have hname : start.name ≠ name := by
      intro hname
      rw [held_of_name_eq hname, List.length_cons] at hall
      omega
    rw [held_of_name_ne hname] at hall
    have hbefore : allHeld name before = [] := List.length_eq_zero_iff.1 (by omega)
    have hafter : allHeld name after = [] := List.length_eq_zero_iff.1 (by omega)
    obtain ⟨hold, hnew⟩ := ih (by omega)
    rw [held_of_name_ne hname, held_of_name_ne hname]
    simp [hbefore, hafter, hold, hnew]

/-- Trees that differ in elements with a name only are the same without these. -/
theorem without_eq {name : List Char} (h : Replaced old new trees trees')
    (heq : allWithout name old = allWithout name new) :
    allWithout name trees = allWithout name trees' := by
  induction h with
  | here before after => simp only [allWithout_append, heq]
  | inside before start after _ ih => simp only [allWithout_append, allWithout, Tree.without, ih]

end Replaced

/-! ## Growing trees that differ in one place -/

/-- The trees that are done and those before the elements that are still open differ in one place. -/
inductive GrownReplaced (old new : List Tree) :
    List (Element × List Tree) → List Tree → List (Element × List Tree) → List Tree → Prop where
  | done (opened : List (Element × List Tree)) {done done' : List Tree}
      (h : Replaced old new done.reverse done'.reverse) : GrownReplaced old new opened done opened done'
  | opened (start : Element) (done : List Tree) {opened opened' : List (Element × List Tree)}
      {before before' : List Tree} (h : GrownReplaced old new opened before opened' before') :
      GrownReplaced old new ((start, before) :: opened) done ((start, before') :: opened') done

/-- So does a tree that is done. -/
theorem GrownReplaced.cons {old new done done' : List Tree} {opened opened' : List (Element × List Tree)}
    (h : GrownReplaced old new opened done opened' done') (tree : Tree) :
    GrownReplaced old new opened (tree :: done) opened' (tree :: done') := by
  cases h with
  | done _ h =>
    refine .done _ ?_
    rw [List.reverse_cons, List.reverse_cons]
    exact h.concat tree
  | opened start _ h => exact .opened start _ h

/-- Trees that differ in one place still do so when the same pieces have been added to them. -/
theorem GrownReplaced.exists_replaced {old new done done' trees : List Tree}
    {opened opened' : List (Element × List Tree)} {parts : List Piece}
    (h : GrownReplaced old new opened done opened' done')
    (hgrow : growTrees? opened done parts = some trees) :
    ∃ trees', growTrees? opened' done' parts = some trees' ∧ Replaced old new trees trees' := by
  induction parts generalizing opened done opened' done' with
  | nil =>
    -- at the end of the pieces no element is open, so that the place is among what is done
    cases h with
    | done _ h =>
      rw [growTrees?] at hgrow ⊢
      split at hgrow
      · next hopened =>
        obtain rfl := Option.some.inj hgrow
        exact ⟨done'.reverse, if_pos hopened, h⟩
      · cases hgrow
    | opened => cases hgrow
  | cons part parts ih =>
    match part with
    | .char c => exact ih (h.cons _) hgrow
    | .tag (.opening start) =>
      rw [growTrees?] at hgrow ⊢
      exact ih (.opened start [] h) hgrow
    | .tag (.empty start) =>
      rw [growTrees?] at hgrow ⊢
      exact ih (h.cons _) hgrow
    | .tag (.closing name) =>
      cases h with
      -- the element that ends holds the place, which is then inside of it
      | @done opened _ _ h =>
        match opened, hgrow with
        | (start, before) :: opened, hgrow =>
          rw [growTrees?] at hgrow ⊢
          split at hgrow
          · next hname =>
            rw [if_pos hname]
            refine ih (.done opened ?_) hgrow
            rw [List.reverse_cons, List.reverse_cons]
            exact .inside before.reverse start [] h
          · cases hgrow
      | opened start _ h =>
        rw [growTrees?] at hgrow ⊢
        split at hgrow
        · next hname =>
          rw [if_pos hname]
          exact ih (h.cons _) hgrow
        · cases hgrow

/-- Pieces that grow into trees with others behind them leave some elements open and some trees done. -/
theorem exists_grown {opened : List (Element × List Tree)} {done trees : List Tree}
    {parts rest : List Piece} (h : growTrees? opened done (parts ++ rest) = some trees) :
    ∃ opened' done', ∀ rest,
      growTrees? opened done (parts ++ rest) = growTrees? opened' done' rest := by
  induction parts generalizing opened done with
  | nil => exact ⟨opened, done, fun _ => rfl⟩
  | cons part parts ih =>
    match part with
    | .char c => exact ih h
    | .tag (.opening start) =>
      obtain ⟨opened', done', hgrow⟩ := ih (by simpa only [List.cons_append, growTrees?] using h)
      exact ⟨opened', done', fun rest => by rw [List.cons_append, growTrees?, hgrow]⟩
    | .tag (.empty start) =>
      obtain ⟨opened', done', hgrow⟩ := ih (by simpa only [List.cons_append, growTrees?] using h)
      exact ⟨opened', done', fun rest => by rw [List.cons_append, growTrees?, hgrow]⟩
    | .tag (.closing name) =>
      match opened, h with
      | (start, before) :: opened, h =>
        rw [List.cons_append, growTrees?] at h
        split at h
        · next hname =>
          obtain ⟨opened', done', hgrow⟩ := ih h
          exact ⟨opened', done', fun rest => by rw [List.cons_append, growTrees?, if_pos hname, hgrow]⟩
        · cases h

/-! ## Places between pieces -/

/-- The start tag of an element with a name and attributes. -/
def startTag (name : String) (attributes : List Attribute) : List Char :=
  '<' :: (openingChars name attributes ++ ['>'])

/-- A start tag is read back as it was written. -/
theorem pieces_startTag {name : String} {attributes : List Attribute}
    (hname : isName name.toList = true) (hattributes : arePlain attributes = true) (rest : List Char) :
    pieces (startTag name attributes ++ rest)
      = (pieces rest).after [.tag (.opening (startOf name attributes))] := by
  rw [startTag, List.cons_append, List.append_assoc]
  exact pieces_markup (markup?_opening hname hattributes rest)

/-- The end tag of an element with a name. -/
def endTag (name : List Char) : List Char := '<' :: '/' :: (name ++ ['>'])

/-- So is an end tag. -/
theorem pieces_endTag {name : List Char} (h : isName name = true) (rest : List Char) :
    pieces (endTag name ++ rest) = (pieces rest).after [.tag (.closing name)] := by
  rw [endTag, List.cons_append, List.cons_append, List.append_assoc]
  exact pieces_markup (markup?_closing h rest)

/-- A text ends between two pieces of a document, whatever the rest of the document is. -/
def EndsBetween (text : List Char) : Prop :=
  ∃ found, ∀ rest, pieces (text ++ rest) = (pieces rest).after found

namespace EndsBetween

variable {text : List Char}

/-- The empty text ends between pieces. -/
theorem nil : EndsBetween [] := ⟨[], fun _ => rfl⟩

/-- Two texts that end between pieces do so in one. -/
theorem append {more : List Char} (h : EndsBetween text) (hmore : EndsBetween more) :
    EndsBetween (text ++ more) := by
  obtain ⟨found, hfound⟩ := h
  obtain ⟨next, hnext⟩ := hmore
  exact ⟨found ++ next, fun rest => by rw [List.append_assoc, hfound, hnext, Pieces.after_after]⟩

/-- The text of plain nodes ends between pieces. -/
theorem allChars {nodes : List Node} (h : allPlain nodes = true) : EndsBetween (allChars nodes) :=
  ⟨_, pieces_allChars nodes h⟩

/-- So does a plain start tag. -/
theorem startTag {name : String} {attributes : List Attribute} (hname : isName name.toList = true)
    (hattributes : arePlain attributes = true) : EndsBetween (startTag name attributes) :=
  ⟨_, pieces_startTag hname hattributes⟩

/-- So does an end tag. -/
theorem endTag {name : List Char} (h : isName name = true) : EndsBetween (endTag name) :=
  ⟨_, pieces_endTag h⟩

end EndsBetween

/-- A comment. -/
def comment (content : List Char) : List Char := "<!--".toList ++ content ++ "-->".toList

/-- A comment that ends where it was meant to end is no piece of the document. -/
theorem pieces_comment {content : List Char} (h : Text.clears "-->".toList content = true)
    (rest : List Char) : pieces (comment content ++ rest) = pieces rest := by
  have hcut : Text.cutFirst ['-', '-', '>'] (content ++ (['-', '-', '>'] ++ rest))
      = some (content, rest) := Text.cutFirst_found (by simp) (Text.passes_of_clears h _)
  have hmarkup : markup? ('!' :: '-' :: '-' :: (content ++ (['-', '-', '>'] ++ rest)))
      = some (none, rest) := by
    rw [markup?, skipDeclaration?, hcut]
    rfl
  rw [comment, List.append_assoc, List.append_assoc]
  exact pieces_markup hmarkup

/-- What is read from a text that goes on with known pieces from a place between two pieces. -/
theorem readTrees?_eq {before markup after : List Char} {found read : List Piece}
    (hbefore : ∀ rest, pieces (before ++ rest) = (pieces rest).after found)
    (hmarkup : ∀ rest, pieces (markup ++ rest) = (pieces rest).after read) :
    readTrees? (String.ofList (before ++ (markup ++ after)))
      = if (pieces after).complete then growTrees? [] [] (found ++ (read ++ (pieces after).pieces))
        else none := by
  rw [readTrees?, String.toList_ofList, hbefore, hmarkup]
  rfl

/-- Printed trees can be replaced by others. -/
theorem readTrees?_replace {before after : List Char} {trees : List Tree} {old new : List Node}
    (hbefore : EndsBetween before) (hold : allPlain old = true) (hnew : allPlain new = true)
    (h : readTrees? (String.ofList (before ++ (allChars old ++ after))) = some trees) :
    ∃ trees', readTrees? (String.ofList (before ++ (allChars new ++ after))) = some trees' ∧
      Replaced (allTrees old) (allTrees new) trees trees' := by
  obtain ⟨found, hfound⟩ := hbefore
  rw [readTrees?_eq hfound (pieces_allChars old hold)] at h
  rw [readTrees?_eq hfound (pieces_allChars new hnew)]
  split at h
  · next hcomplete =>
    -- the old trees and the new ones are grown behind the same open elements
    obtain ⟨opened, done, hgrown⟩ := exists_grown h
    rw [hgrown, growTrees?_nodes] at h
    rw [if_pos hcomplete, hgrown, growTrees?_nodes]
    refine GrownReplaced.exists_replaced (.done opened ?_) h
    have hhere : Replaced (allTrees old) (allTrees new) (done.reverse ++ allTrees old ++ [])
        (done.reverse ++ allTrees new ++ []) := .here done.reverse []
    simpa using hhere
  · cases h

/-- Printed trees can be put in front of an end tag, as the last ones in its element, and behind it. -/
theorem readTrees?_around {before after name : List Char} {trees : List Tree} {inside behind : List Node}
    (hbefore : EndsBetween before) (hname : isName name = true) (hinside : allPlain inside = true)
    (hbehind : allPlain behind = true)
    (h : readTrees? (String.ofList (before ++ (endTag name ++ after))) = some trees) :
    ∃ start children trees', start.name = name ∧
      readTrees? (String.ofList (before ++ ((allChars inside ++ (endTag name ++ allChars behind)) ++ after)))
        = some trees' ∧
      Replaced [.element start children]
        (.element start (children ++ allTrees inside) :: allTrees behind) trees trees' := by
  obtain ⟨found, hfound⟩ := hbefore
  have hall : ∀ rest, pieces ((allChars inside ++ (endTag name ++ allChars behind)) ++ rest)
      = (pieces rest).after
        (allNodePieces inside ++ (.tag (.closing name) :: allNodePieces behind)) := by
    intro rest
    rw [List.append_assoc, List.append_assoc, pieces_allChars inside hinside, pieces_endTag hname,
      pieces_allChars behind hbehind, Pieces.after_after, Pieces.after_after, List.append_assoc,
      List.singleton_append]
  rw [readTrees?_eq hfound (pieces_endTag hname)] at h
  rw [readTrees?_eq hfound hall]
  split at h
  · next hcomplete =>
    obtain ⟨opened, done, hgrown⟩ := exists_grown h
    rw [hgrown] at h
    rw [if_pos hcomplete, hgrown, List.append_assoc, growTrees?_nodes]
    -- the end tag ends the innermost open element, between what is inserted
    match opened, h with
    | (start, preceding) :: opened, h =>
      rw [List.singleton_append, growTrees?] at h
      rw [List.cons_append, growTrees?]
      split at h
      · next heq =>
        rw [if_pos heq, growTrees?_nodes]
        have hhere : Replaced [.element start done.reverse]
            (.element start (done.reverse ++ allTrees inside) :: allTrees behind)
            (preceding.reverse ++ [.element start done.reverse] ++ [])
            (preceding.reverse ++ (.element start (done.reverse ++ allTrees inside) :: allTrees behind) ++ []) :=
          .here preceding.reverse []
        have hgrown : GrownReplaced [.element start done.reverse]
            (.element start (done.reverse ++ allTrees inside) :: allTrees behind)
            opened (.element start done.reverse :: preceding) opened
            ((allTrees behind).reverse
              ++ .element start ((allTrees inside).reverse ++ done).reverse :: preceding) :=
          .done opened (by simpa using hhere)
        obtain ⟨trees', htrees', hreplaced⟩ := hgrown.exists_replaced h
        exact ⟨start, done.reverse, trees', heq.symm, htrees', hreplaced⟩
      · cases h
  · cases h

/-- Printed trees can be put in front of an end tag, as the last ones in its element. -/
theorem readTrees?_insert {before after name : List Char} {trees : List Tree} {new : List Node}
    (hbefore : EndsBetween before) (hname : isName name = true) (hnew : allPlain new = true)
    (h : readTrees? (String.ofList (before ++ (endTag name ++ after))) = some trees) :
    ∃ start children trees', start.name = name ∧
      readTrees? (String.ofList (before ++ ((allChars new ++ endTag name) ++ after))) = some trees' ∧
      Replaced [.element start children] [.element start (children ++ allTrees new)] trees trees' := by
  obtain ⟨start, children, trees', hstart, htrees', hreplaced⟩ :=
    readTrees?_around hbefore hname hnew (show allPlain [] = true from rfl) h
  rw [allChars, List.append_nil] at htrees'
  exact ⟨start, children, trees', hstart, htrees', hreplaced⟩

end SlideDeck.Xml
