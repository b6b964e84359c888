import Mathlib.Data.List.Basic

/-! Documents of elements, and the selection of elements by a path. A step of a path
goes to all children of a name, or to the one at a place among them. -/

namespace Liblinphone.Library

structure XmlName where
  space : String
  name : String
deriving Repr, DecidableEq

inductive XmlNode where
  | element (name : XmlName) (attributes : List (XmlName × String)) (text : String) (children : List XmlNode)
deriving Repr

namespace XmlNode

def name : XmlNode → XmlName
  | element name _ _ _ => name

def attributes : XmlNode → List (XmlName × String)
  | element _ attributes _ _ => attributes

def text : XmlNode → String
  | element _ _ text _ => text

def children : XmlNode → List XmlNode
  | element _ _ _ children => children

mutual

/-- All text below a node. -/
def content : XmlNode → String
  | element _ _ text children => text ++ contents children

def contents : List XmlNode → String
  | [] => ""
  | node :: rest => node.content ++ contents rest

end

def childrenNamed (wanted : XmlName) (node : XmlNode) : List XmlNode := node.children.filter fun child => child.name = wanted

def select (nodes : List XmlNode) (wanted : XmlName) : List XmlNode := nodes.flatMap (childrenNamed wanted)

def selectAt (nodes : List XmlNode) (wanted : XmlName) (place : Nat) : List XmlNode :=
  nodes.flatMap fun node => ((node.childrenNamed wanted)[place]?).toList

/-- The children of any name of a namespace. -/
def selectSpace (nodes : List XmlNode) (space : String) : List XmlNode :=
  nodes.flatMap fun node => node.children.filter fun child => child.name.space = space

/-- What is selected at each place, for as many places as there are children of the name. -/
def selectEach (nodes : List XmlNode) (wanted : XmlName) : List (List XmlNode) :=
  (List.range (select nodes wanted).length).map (selectAt nodes wanted)

/-- The text of the first node that is not empty. -/
def textContent (nodes : List XmlNode) : String :=
  ((nodes.find? fun node => node.text != "" || !node.children.isEmpty).map text).getD ""

def attributeContent (nodes : List XmlNode) (wanted : XmlName) : String :=
  ((nodes.filterMap fun node => node.attributes.lookup wanted).find? fun value => value != "").getD ""

@[simp] theorem name_element (name : XmlName) (attributes : List (XmlName × String)) (text : String)
    (children : List XmlNode) : (element name attributes text children).name = name := rfl

@[simp] theorem select_single (node : XmlNode) (wanted : XmlName) : select [node] wanted = node.childrenNamed wanted := by
  simp [select]

/-- Below one parent each place has one child. -/
@[simp] theorem selectEach_single (node : XmlNode) (wanted : XmlName) :
    selectEach [node] wanted = (node.childrenNamed wanted).map fun child => [child] := by
  unfold selectEach
  rw [select_single]
  apply List.ext_getElem
  · simp
  · intro place _ inside
    rw [List.length_map] at inside
    simp [selectAt, List.getElem?_eq_getElem inside]

@[simp] theorem selectSpace_single (node : XmlNode) (space : String) :
    selectSpace [node] space = node.children.filter fun child => child.name.space = space := by
  simp [selectSpace]

@[simp] theorem textContent_leaf (name : XmlName) (attributes : List (XmlName × String)) (text : String) :
    textContent [element name attributes text []] = text := by
  by_cases empty : text = ""
  · simp [textContent, empty, XmlNode.text, children]
  · simp [textContent, empty, XmlNode.text, children]

@[simp] theorem content_leaf (name : XmlName) (attributes : List (XmlName × String)) (text : String) :
    (element name attributes text []).content = text := by
  simp [content, contents]

theorem attributeContent_single {node : XmlNode} {wanted : XmlName} {value : String}
    (held : node.attributes.lookup wanted = some value) : attributeContent [node] wanted = value := by
  by_cases empty : value = ""
  · simp [attributeContent, held, empty]
  · simp [attributeContent, held, empty]

theorem attributeContent_absent {node : XmlNode} {wanted : XmlName} (absent : node.attributes.lookup wanted = none) :
    attributeContent [node] wanted = "" := by
  simp [attributeContent, absent]

/-- Children that are all of one name. -/
theorem filter_named {α : Type u} {write : α → XmlNode} (written : XmlName) (named : ∀ item, (write item).name = written)
    (items : List α) (wanted : XmlName) :
    (items.map write).filter (fun child => child.name = wanted) = if written = wanted then items.map write else [] := by
  split
  next same =>
    rw [List.filter_eq_self]
    intro child member
    obtain ⟨item, -, rfl⟩ := List.mem_map.mp member
    simp [named item, same]
  next other =>
    rw [List.filter_eq_nil_iff]
    intro child member
    obtain ⟨item, -, rfl⟩ := List.mem_map.mp member
    simp [named item, other]

end XmlNode

end Liblinphone.Library
