import Mathlib.Data.Rat.Defs
import Mathlib.Data.List.Basic

/-!
# The DSP JSON Metadata

The part of the Faust JSON description the script reads, and `extract_items_info`, which
walks its UI tree into the parameter list.

A UI item is a JSON object with optional keys; `UIItem` keeps the keys the script reads, each
as an `Option` so that an absent key and its default stay apart as in the source. A `meta`
entry is a JSON object of string values, kept as an association list. A number keeps what
`json.load` makes of it, an `int` for an integer literal and a `float` otherwise: the script
prints numbers into boxes by value, but its one division raises differently on the two.

`str.split()` is modelled exactly: it splits on runs of the characters `str.isspace` accepts
and drops empty words. `whitespaceWords` states the same in the words of the specification, as
a scan that closes a word at each whitespace character, and `pySplit_eq_whitespaceWords`
proves the two equal.

## Main results

* `pySplit_eq_whitespaceWords`: `str.split()` returns the maximal runs of non-whitespace
  characters, left to right.
* `extractItemsInfo_eq_preorder`: `extract_items_info` returns the descriptors of the
  qualifying nodes of the UI tree in preorder, and extraction distributes over a
  concatenation of sibling lists.
-/

namespace FaustRnbo

/-- A JSON object of string values, such as an entry of a `meta` array. -/
abbrev MetaEntry := List (String × String)

/-- A JSON number as `json.load` returns it: an integer literal is a Python `int`, of any size,
and any other literal a `float`, kept as the value of the double it denotes. -/
inductive JsonNum where
  | int (n : ℤ)
  | float (x : ℚ)
deriving DecidableEq, Repr

/-- The value of a JSON number, which is what the script prints into a box. -/
@[coe] def JsonNum.val : JsonNum → ℚ
  | .int n => n
  | .float x => x

instance : Coe JsonNum ℚ := ⟨JsonNum.val⟩

/-- A numeral of the model is a JSON integer literal. -/
instance (n : Nat) : OfNat JsonNum n := ⟨.int n⟩

/-- A node of the `"ui"` tree: the keys `extract_from_ui` reads. -/
structure UIItem where
  type : Option String
  shortname : Option String
  min : Option JsonNum
  max : Option JsonNum
  step : Option JsonNum
  init : Option JsonNum
  meta : Option (List MetaEntry)
  items : Option (List UIItem)

/-- The keys of the DSP JSON document the script reads. `meta` is required: the script
indexes it directly (`json_data["meta"]`), and Faust always writes it. -/
structure DspJson where
  inputs : Option Nat
  outputs : Option Nat
  meta : List MetaEntry
  ui : Option (List UIItem)

/-- One parameter as `extract_from_ui` describes it (the dictionary appended to
`info_list`). -/
structure ItemInfo where
  shortname : String
  type : String
  init : JsonNum
  min : JsonNum
  max : JsonNum
  step : JsonNum
  midi : List String
deriving DecidableEq, Repr

/-- The characters `str.isspace` accepts (CPython's `_PyUnicode_IsWhitespace`). -/
def isPySpace (c : Char) : Bool :=
  (9 ≤ c.toNat && c.toNat ≤ 13) || (28 ≤ c.toNat && c.toNat ≤ 32) || c.toNat == 0x85 ||
    c.toNat == 0xA0 || c.toNat == 0x1680 || (0x2000 ≤ c.toNat && c.toNat ≤ 0x200A) ||
    c.toNat == 0x2028 || c.toNat == 0x2029 || c.toNat == 0x202F || c.toNat == 0x205F ||
    c.toNat == 0x3000

/-- `s.split()`: the pieces between whitespace characters, empty pieces dropped. -/
def pySplit (s : String) : List String :=
  ((s.toList.splitOnP isPySpace).filter (fun w => !w.isEmpty)).map String.mk

/-- The words of `cs` when the word read so far is `w` (reversed): a whitespace character
closes the current word, if there is one, and any other character extends it. -/
def wordsScan : List Char → List Char → List String
  | [], w => if w = [] then [] else [String.mk w.reverse]
  | c :: cs, w =>
    if isPySpace c then (if w = [] then [] else [String.mk w.reverse]) ++ wordsScan cs []
    else wordsScan cs (c :: w)

/-- The whitespace-separated words of `s`: its maximal runs of non-whitespace characters, left
to right. -/
def whitespaceWords (s : String) : List String :=
  wordsScan s.toList []

private theorem modifyHead_self {α : Type} (l : List α) : l.modifyHead (fun x => x) = l := by
  cases l <;> rfl

/-- The pieces `splitOnP` has yet to return, the first one prefixed with the word read so far,
are the words of the scan. -/
theorem splitOnP_words (cs w : List Char) :
    (((cs.splitOnP isPySpace).modifyHead (w.reverse ++ ·)).filter (fun w => !w.isEmpty)).map
      String.mk = wordsScan cs w := by
  induction cs generalizing w with
  | nil => cases w <;> simp [List.splitOnP_nil, wordsScan]
  | cons c cs ih =>
    rw [List.splitOnP_cons, wordsScan]
    by_cases hc : isPySpace c
    · have h := ih []
      simp only [List.reverse_nil, List.nil_append, modifyHead_self] at h
      cases w <;> simp_all [List.filter_cons]
    · simp only [hc, if_false, List.modifyHead_modifyHead, ← ih (c :: w)]
      simp [Function.comp_def]

/-- **`str.split()` is the whitespace words.** -/
theorem pySplit_eq_whitespaceWords (s : String) : pySplit s = whitespaceWords s := by
  simpa [modifyHead_self] using splitOnP_words s.toList []

/-- The `midi_info` loop: the tokens of every `midi` entry of an item's `meta` list. -/
def midiInfo (meta : List MetaEntry) : List String :=
  meta.flatMap fun m => match m.lookup "midi" with
    | some v => pySplit v
    | none => []

/-- The dictionary `extract_from_ui` appends for one item, if it appends one: buttons and
checkboxes get the fixed range `0..1`, other items one when they carry `min`, `max` and
`step`. -/
def itemInfo (item : UIItem) : Option ItemInfo :=
  let shortname := item.shortname.getD ""
  let itemType := item.type.getD ""
  let midi := midiInfo (item.meta.getD [])
  if itemType ∈ ["button", "checkbox"] then
    some ⟨shortname, itemType, 0, 0, 1, 1, midi⟩
  else
    match item.min, item.max, item.step with
    | some mn, some mx, some st => some ⟨shortname, itemType, item.init.getD 0, mn, mx, st, midi⟩
    | _, _, _ => none

mutual

/-- The body of the loop of `extract_from_ui` for one item: its dictionary, then the
extraction of its `items`. -/
def extractFromItem : UIItem → List ItemInfo
  | item@⟨_, _, _, _, _, _, _, items⟩ =>
    (itemInfo item).toList ++ match items with
      | some children => extractFromUi children
      | none => []

/-- `extract_from_ui`: the loop over a list of sibling items. -/
def extractFromUi : List UIItem → List ItemInfo
  | [] => []
  | item :: rest => extractFromItem item ++ extractFromUi rest

end

/-- `extract_items_info`: the extraction of the `"ui"` section, empty when there is none. -/
def extractItemsInfo (json : DspJson) : List ItemInfo :=
  match json.ui with
  | some ui => extractFromUi ui
  | none => []

/-! ### The preorder specification -/

mutual

/-- The preorder of a UI tree: a node, then the preorders of its children in order. -/
def UIItem.preorder : UIItem → List UIItem
  | item@⟨_, _, _, _, _, _, _, items⟩ =>
    item :: match items with
      | some children => preorderList children
      | none => []

/-- The preorder of a list of sibling trees. -/
def preorderList : List UIItem → List UIItem
  | [] => []
  | item :: rest => item.preorder ++ preorderList rest

end

/-- The descriptor a node gets, in the words of the specification: a button or checkbox has
init `0` and range `0..1` with step `1`, a node carrying `min`, `max` and `step` its own values
and its `init` (default `0`); its MIDI tokens are those of all its `midi` annotations in order. -/
def descriptor (node : UIItem) : Option ItemInfo :=
  let midi := ((node.meta.getD []).filterMap (·.lookup "midi")).flatMap whitespaceWords
  if node.type = some "button" ∨ node.type = some "checkbox" then
    some ⟨node.shortname.getD "", node.type.getD "", 0, 0, 1, 1, midi⟩
  else
    (node.min.bind fun mn => node.max.bind fun mx => node.step.map fun st =>
      ⟨node.shortname.getD "", node.type.getD "", node.init.getD 0, mn, mx, st, midi⟩)

theorem midiInfo_eq (meta : List MetaEntry) :
    midiInfo meta = (meta.filterMap (·.lookup "midi")).flatMap whitespaceWords := by
  induction meta with
  | nil => rfl
  | cons m meta ih =>
    cases h : m.lookup "midi" <;>
      simp [midiInfo, List.filterMap_cons, h, pySplit_eq_whitespaceWords] at ih ⊢ <;> rw [ih]

theorem itemInfo_eq_descriptor (item : UIItem) : itemInfo item = descriptor item := by
  have htype : item.type.getD "" ∈ ["button", "checkbox"] ↔
      item.type = some "button" ∨ item.type = some "checkbox" := by
    rcases item.type with _ | t <;> simp
  simp only [itemInfo, descriptor, midiInfo_eq, htype]
  split_ifs
  · rfl
  · rcases item.min <;> rcases item.max <;> rcases item.step <;> rfl

private theorem filterMap_cons_eq_toList {α β : Type} (f : α → Option β) (a : α) (l : List α) :
    (a :: l).filterMap f = (f a).toList ++ l.filterMap f := by
  cases h : f a <;> simp [List.filterMap_cons, h]

mutual

theorem extractFromItem_eq : ∀ item : UIItem,
    extractFromItem item = item.preorder.filterMap descriptor
  | ⟨_, _, _, _, _, _, _, none⟩ => by
    simp [extractFromItem, UIItem.preorder, filterMap_cons_eq_toList, itemInfo_eq_descriptor]
  | ⟨_, _, _, _, _, _, _, some children⟩ => by
    simp only [extractFromItem, UIItem.preorder, extractFromUi_eq children,
      filterMap_cons_eq_toList, itemInfo_eq_descriptor]

theorem extractFromUi_eq : ∀ items : List UIItem,
    extractFromUi items = (preorderList items).filterMap descriptor
  | [] => rfl
  | item :: rest => by
    simp only [extractFromUi, preorderList, List.filterMap_append, extractFromItem_eq item,
      extractFromUi_eq rest]

end

theorem preorderList_append (xs ys : List UIItem) :
    preorderList (xs ++ ys) = preorderList xs ++ preorderList ys := by
  induction xs with
  | nil => rfl
  | cons x xs ih => simp [preorderList, ih]

/-- **Extraction is the preorder filter.** `extract_items_info` returns, in preorder, the
descriptors of exactly the nodes that are buttons or checkboxes or carry `min`, `max` and
`step`; and the extraction of a concatenation of sibling lists is the concatenation of their
extractions. -/
theorem extractItemsInfo_eq_preorder (json : DspJson) :
    extractItemsInfo json = (preorderList (json.ui.getD [])).filterMap descriptor ∧
      ∀ xs ys, extractFromUi (xs ++ ys) = extractFromUi xs ++ extractFromUi ys := by
  refine ⟨?_, fun xs ys => ?_⟩
  · cases h : json.ui <;> simp [extractItemsInfo, h, extractFromUi_eq, preorderList]
  · simp only [extractFromUi_eq, preorderList_append, List.filterMap_append]

end FaustRnbo
