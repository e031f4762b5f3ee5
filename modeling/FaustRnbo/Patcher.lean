import Mathlib.Data.Rat.Defs

/-!
# Max Patchers

The data model that the script builds through `py2max`. A patcher is a list of boxes and a
list of patch lines. A box is addressed by its position in creation order, which is the
`obj-N` numbering `py2max` gives it, and a line joins an outlet of one box to an inlet of
another, ports numbered from `0` on both sides as `Patcher.add_line` takes them.

Two kinds of patcher occur. The top-level Max patcher holds comments, plain boxes, message
boxes, `attrui` controls and `rnbo~` objects; the subpatcher of an `rnbo~` object holds the
RNBO boxes (`codebox~`, `in~`, `set`, `param`, ...) that the script adds to
`rnbo.subpatcher`. `Patcher β` is generic in its box type and serves both.

Box texts are kept as Max reads them, as lists of atoms: a number interpolated into an
f-string is the number it prints, and an interpolated label or MIDI token is one symbol.
Layout (`patching_rect`, `fontsize`) is not modelled: only topology and port addressing are.

The script's failures are Python exceptions; `PyError` names the four it can raise.
-/

namespace FaustRnbo

/-- The exceptions the script raises on some inputs: reading the unbound loop variable of
`generate_io_info`, dividing by a zero `step`, making a float of an int beyond the float range
in the same division, and comparing `None > 0`. -/
inductive PyError where
  | unboundLocal (name : String)
  | zeroDivision
  | overflow
  | typeError
deriving DecidableEq, Repr

/-- A Max atom: a box text is parsed into symbols and numbers. -/
inductive Atom where
  | sym (s : String)
  | num (q : ℚ)
deriving DecidableEq, Repr

/-- A patch line from outlet `outlet` of box `src` to inlet `inlet` of box `dst`. -/
structure Line where
  src : Nat
  outlet : Nat
  dst : Nat
  inlet : Nat
deriving DecidableEq, Repr

/-- A patcher: its boxes in creation order and its lines in the order they were added. -/
structure Patcher (β : Type) where
  boxes : List β
  lines : List Line
deriving DecidableEq, Repr

namespace Patcher

variable {β : Type}

/-- `Patcher(...)`: a patcher with nothing in it. -/
def empty : Patcher β := ⟨[], []⟩

/-- `add_textbox`, `add_message`, `add_rnbo`, ...: append a box and return its id. -/
def addBox (p : Patcher β) (b : β) : Patcher β × Nat :=
  (⟨p.boxes ++ [b], p.lines⟩, p.boxes.length)

/-- `add_line(src, dst, inlet=inlet, outlet=outlet)`. -/
def addLine (p : Patcher β) (src dst inlet outlet : Nat) : Patcher β :=
  ⟨p.boxes, p.lines ++ [⟨src, outlet, dst, inlet⟩]⟩

@[simp] theorem empty_boxes : (empty : Patcher β).boxes = [] := rfl
@[simp] theorem empty_lines : (empty : Patcher β).lines = [] := rfl

@[simp] theorem addBox_boxes (p : Patcher β) (b : β) : (p.addBox b).1.boxes = p.boxes ++ [b] :=
  rfl

@[simp] theorem addBox_lines (p : Patcher β) (b : β) : (p.addBox b).1.lines = p.lines := rfl

@[simp] theorem addBox_id (p : Patcher β) (b : β) : (p.addBox b).2 = p.boxes.length := rfl

@[simp] theorem addLine_boxes (p : Patcher β) (src dst inlet outlet : Nat) :
    (p.addLine src dst inlet outlet).boxes = p.boxes := rfl

@[simp] theorem addLine_lines (p : Patcher β) (src dst inlet outlet : Nat) :
    (p.addLine src dst inlet outlet).lines = p.lines ++ [⟨src, outlet, dst, inlet⟩] := rfl

end Patcher

/-- A box or a line of a patcher stays where it is when more are appended. -/
theorem getElem?_append_of_eq_some {α : Type} {l r : List α} {n : Nat} {x : α}
    (h : l[n]? = some x) : (l ++ r)[n]? = some x := by
  rw [List.getElem?_append_left (List.getElem?_eq_some_iff.mp h).1, h]

theorem getElem?_of_extends {α : Type} {l l' : List α} (h : l <+: l') {n : Nat} {x : α}
    (hx : l[n]? = some x) : l'[n]? = some x := by
  obtain ⟨r, rfl⟩ := h
  exact getElem?_append_of_eq_some hx

@[simp] theorem getElem?_append_length_add {α : Type} (l r : List α) (j : Nat) :
    (l ++ r)[l.length + j]? = r[j]? := by
  rw [List.getElem?_append_right (by omega), Nat.add_sub_cancel_left]

@[simp] theorem getElem?_append_length {α : Type} (l r : List α) : (l ++ r)[l.length]? = r[0]? :=
  getElem?_append_length_add l r 0

/-- The kind of port an `IOInfo` entry declares. -/
inductive PortType where
  | signal
  | midi
deriving DecidableEq, Repr

/-- One entry of the `IOInfo` list of an `rnbo~` object's `inletInfo` or `outletInfo`:
`{"comment": .., "index": .., "tag": .., "type": ..}`, with a `1`-based index. -/
structure IOEntry where
  comment : String
  index : Nat
  tag : String
  type : PortType
deriving DecidableEq, Repr

/-- A box of an `rnbo~` subpatcher: a plain RNBO box, or the `codebox~` holding the DSP code. -/
inductive SubBox where
  | textbox (text : List Atom)
  | codebox (code : String)
deriving DecidableEq, Repr

/-- The `saved_object_attributes` of an `rnbo~` object. -/
structure SavedAttributes where
  optimization : String
  title : String
  dumpoutlet : Nat
  polyphony : Option Int
deriving DecidableEq, Repr

/-- An `rnbo~` object as `add_rnbo` creates it, with the subpatcher the script fills. -/
structure Rnbo where
  title : String
  numinlets : Nat
  numoutlets : Nat
  inletInfo : List IOEntry
  outletInfo : List IOEntry
  savedObjectAttributes : SavedAttributes
  subpatcher : Patcher SubBox
deriving DecidableEq, Repr

/-- An `attrui` box bound to a parameter: `attr`, `minimum`, `maximum`, `parameter_enable`,
and the `valueof` attributes `parameter_initial` and `parameter_initial_enable`. -/
structure Attrui where
  attr : String
  minimum : ℚ
  maximum : ℚ
  parameterEnable : Nat
  parameterInitial : List Atom
  parameterInitialEnable : Nat
deriving DecidableEq, Repr

/-- A box of the top-level Max patcher. A plain box carries the `numinlets`/`numoutlets`
keywords that `dac~` and `adc~` are given. The one comment, the patch's header, is kept
without its text, which nothing reads. -/
inductive Box where
  | comment
  | textbox (text : List Atom) (numinlets numoutlets : Option Nat)
  | message (text : List Atom)
  | attrui (a : Attrui)
  | rnbo (r : Rnbo)
deriving DecidableEq, Repr

/-- A plain box created by `add_textbox(text)` with no port keywords. -/
def Box.plain (text : List Atom) : Box := .textbox text none none

end FaustRnbo
