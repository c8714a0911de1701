import BlockMail.Html.Node

/-! # Reading markup

What a reader finds in a document: its elements, the texts that they show and the
links among them, all in the order of the document.  Markup that is copied is not
looked into.
-/

namespace BlockMail.Html

/-- An element as it is found in a document. -/
structure Element where
  tag : String
  attributes : List (String × String)
  content : List Node

mutual

/-- The elements of a piece, each before those inside it. -/
def Node.elements : Node → List Element
  | .text _ => []
  | .raw _ => []
  | .element tag attributes content => ⟨tag, attributes, content⟩ :: elementsOf content
  | .voidElement tag attributes => [⟨tag, attributes, []⟩]
  | .doctype => []

/-- The elements of pieces that follow each other. -/
def elementsOf : List Node → List Element
  | [] => []
  | n :: ns => n.elements ++ elementsOf ns

end

mutual

/-- The text that a piece shows. -/
def Node.shown : Node → String
  | .text s => s
  | .raw _ => ""
  | .element _ _ content => shownBy content
  | .voidElement _ _ => ""
  | .doctype => ""

/-- The text that pieces show together. -/
def shownBy : List Node → String
  | [] => ""
  | n :: ns => n.shown ++ shownBy ns

end

namespace Element

/-- The text that an element shows. -/
def shown (e : Element) : String := shownBy e.content

/-- The markup inside an element. -/
def markup (e : Element) : String := printAll e.content

/-- The value of an attribute. -/
def attribute? (e : Element) (name : String) : Option String := e.attributes.lookup name

def hasTag (tag : String) (e : Element) : Bool := e.tag == tag

def hasClass (className : String) (e : Element) : Bool := e.attribute? "class" == some className

end Element

/-- The elements that pass a test. -/
def select (test : Element → Bool) (ns : List Node) : List Element :=
  (elementsOf ns).filter test

/-- The links, each with its target and the text that it shows. -/
def links (ns : List Node) : List (Option String × String) :=
  (select (Element.hasTag "a") ns).map fun e => (e.attribute? "href", e.shown)

/-! ## Small lemmas -/

@[simp] theorem shownBy_nil : shownBy [] = "" := by rw [shownBy]

@[simp] theorem shownBy_cons (n : Node) (ns : List Node) :
    shownBy (n :: ns) = n.shown ++ shownBy ns := by rw [shownBy]

@[simp] theorem Node.shown_text (s : String) : (Node.text s).shown = s := by rw [Node.shown]

@[simp] theorem Node.shown_element (tag : String) (attributes : List (String × String))
    (content : List Node) : (Node.element tag attributes content).shown = shownBy content := by
  rw [Node.shown]

@[simp] theorem Element.shown_mk (tag : String) (attributes : List (String × String))
    (content : List Node) : Element.shown ⟨tag, attributes, content⟩ = shownBy content := rfl

@[simp] theorem Element.markup_mk (tag : String) (attributes : List (String × String))
    (content : List Node) : Element.markup ⟨tag, attributes, content⟩ = printAll content := rfl

@[simp] theorem Element.hasTag_mk (name tag : String) (attributes : List (String × String))
    (content : List Node) : Element.hasTag name ⟨tag, attributes, content⟩ = (tag == name) := rfl

@[simp] theorem Element.attribute?_mk (name tag first value : String)
    (rest : List (String × String)) (content : List Node) :
    Element.attribute? ⟨tag, (first, value) :: rest, content⟩ name
      = if name = first then some value else Element.attribute? ⟨tag, rest, content⟩ name := by
  unfold Element.attribute?
  rw [List.lookup_cons]
  cases h : name == first with
  | true => rw [if_pos (eq_of_beq h)]
  | false => rw [if_neg (ne_of_beq_false h)]

@[simp] theorem Element.attribute?_nil (name tag : String) (content : List Node) :
    Element.attribute? ⟨tag, [], content⟩ name = none := rfl

@[simp] theorem Element.hasClass_mk (className tag : String)
    (attributes : List (String × String)) (content : List Node) :
    Element.hasClass className ⟨tag, attributes, content⟩
      = (Element.attribute? ⟨tag, attributes, content⟩ "class" == some className) := rfl

@[simp] theorem elementsOf_nil : elementsOf [] = [] := by rw [elementsOf]

@[simp] theorem elementsOf_cons (n : Node) (ns : List Node) :
    elementsOf (n :: ns) = n.elements ++ elementsOf ns := by rw [elementsOf]

@[simp] theorem Node.elements_text (s : String) : (Node.text s).elements = [] := by
  rw [Node.elements]

@[simp] theorem Node.elements_element (tag : String) (attributes : List (String × String))
    (content : List Node) :
    (Node.element tag attributes content).elements
      = ⟨tag, attributes, content⟩ :: elementsOf content := by
  rw [Node.elements]

@[simp] theorem Node.elements_voidElement (tag : String) (attributes : List (String × String)) :
    (Node.voidElement tag attributes).elements = [⟨tag, attributes, []⟩] := by
  rw [Node.elements]

theorem elementsOf_append (ns ms : List Node) :
    elementsOf (ns ++ ms) = elementsOf ns ++ elementsOf ms := by
  induction ns with
  | nil => rw [List.nil_append, elementsOf_nil, List.nil_append]
  | cons n ns ih =>
    rw [List.cons_append, elementsOf_cons, elementsOf_cons, ih, List.append_assoc]

theorem select_append (test : Element → Bool) (ns ms : List Node) :
    select test (ns ++ ms) = select test ns ++ select test ms := by
  unfold select
  rw [elementsOf_append, List.filter_append]

@[simp] theorem select_nil (test : Element → Bool) : select test [] = [] := by
  unfold select
  rw [elementsOf_nil, List.filter_nil]

@[simp] theorem select_text (test : Element → Bool) (s : String) (ns : List Node) :
    select test (.text s :: ns) = select test ns := by
  unfold select
  rw [elementsOf_cons, Node.elements_text, List.nil_append]

@[simp] theorem select_newline (test : Element → Bool) (ns : List Node) :
    select test (newline :: ns) = select test ns :=
  select_text test "\n" ns

theorem select_element (test : Element → Bool) (tag : String)
    (attributes : List (String × String)) (content ns : List Node) :
    select test (.element tag attributes content :: ns)
      = (if test ⟨tag, attributes, content⟩ then [⟨tag, attributes, content⟩] else [])
        ++ select test content ++ select test ns := by
  unfold select
  rw [elementsOf_cons, Node.elements_element, List.filter_append, List.filter_cons]
  split
  · rfl
  · rw [List.nil_append]

theorem select_voidElement (test : Element → Bool) (tag : String)
    (attributes : List (String × String)) (ns : List Node) :
    select test (.voidElement tag attributes :: ns)
      = (if test ⟨tag, attributes, []⟩ then [⟨tag, attributes, []⟩] else [])
        ++ select test ns := by
  unfold select
  rw [elementsOf_cons, Node.elements_voidElement, List.filter_append, List.filter_cons,
    List.filter_nil]

theorem select_frame {test : Element → Bool} {tag : String} {attributes : List (String × String)}
    {content : List Node} (h : test ⟨tag, attributes, content⟩ = false) (ns : List Node) :
    select test (.element tag attributes content :: ns)
      = select test content ++ select test ns := by
  rw [select_element, h]
  rfl

/-- What is read off a row of pieces made after one pattern, each of which holds just
    what is looked for. -/
theorem map_select_map {α β : Type} {test : Element → Bool} {read : Element → β}
    {node : α → Node} {value : α → β}
    (h : ∀ x, (select test [node x]).map read = [value x]) (xs : List α) :
    (select test (xs.map node)).map read = xs.map value := by
  induction xs with
  | nil => rw [List.map_nil, select_nil, List.map_nil, List.map_nil]
  | cons x xs ih =>
    have hcons : node x :: xs.map node = [node x] ++ xs.map node := rfl
    rw [List.map_cons, hcons, select_append, List.map_append, h, ih]
    rfl

theorem select_map_nil {α : Type} {test : Element → Bool} {node : α → Node}
    (h : ∀ x, select test [node x] = []) (xs : List α) : select test (xs.map node) = [] := by
  induction xs with
  | nil => exact select_nil test
  | cons x xs ih =>
    have hcons : node x :: xs.map node = [node x] ++ xs.map node := rfl
    rw [List.map_cons, hcons, select_append, h, ih]
    rfl

end BlockMail.Html
