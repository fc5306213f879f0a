import SchemaDraft.Proofs.Document.ReadBack

/-!
A document as JSON text and the same document already decoded. The two forms are checked by the same
rules but not read by the same: a double passes for a string in other words, and an integer beyond
all doubles is infinite in text and refused as a value. Nothing else tells them apart: the outcomes
of two checks agree if no such integer is met, and the decoded document has more faults if one is
(`AgreesIf`), from the single field up to the whole document (`reported_loadTextWithin_iff`).
-/

namespace SchemaDraft

/-! ### Decoded values -/

namespace Json

/-- The members of a dictionary: each key once, at its first place and with its last value. -/
def dictionary : List (String × Json) → List (String × Json)
  | [] => []
  | (k, v) :: ms => (k, (lastMember k ms).getD v) :: (dictionary ms).filter (·.1 ≠ k)

mutual

/-- The value that a text with this value decodes to: its objects are dictionaries. -/
def decoded : Json → Json
  | array items => array (decodedItems items)
  | object members => object (dictionary (decodedMembers members))
  | v => v

/-- The values of a list, decoded. -/
def decodedItems : List Json → List Json
  | [] => []
  | v :: vs => decoded v :: decodedItems vs

/-- Members with their values decoded. -/
def decodedMembers : List (String × Json) → List (String × Json)
  | [] => []
  | (k, v) :: ms => (k, decoded v) :: decodedMembers ms

end

theorem decodedItems_eq_map (vs : List Json) : decodedItems vs = vs.map decoded := by
  induction vs with
  | nil => rfl
  | cons v vs ih => rw [decodedItems, ih, List.map_cons]

theorem lastMember_filter (key k : String) (ms : List (String × Json)) :
    lastMember key (ms.filter (·.1 ≠ k)) = if key = k then none else lastMember key ms := by
  induction ms with
  | nil => simp [lastMember]
  | cons m ms ih =>
    obtain ⟨k', v⟩ := m
    -- a member of the key that is taken out, or one that stays
    by_cases hk : k' = k
    · rw [List.filter_cons_of_neg (by simpa using hk), ih]
      split
      · rfl
      · rename_i hkey
        have hne : k' ≠ key := fun h => hkey (h.symm.trans hk)
        rw [lastMember, if_neg hne]
        cases lastMember key ms <;> rfl
    · rw [List.filter_cons_of_pos (by simpa using hk), lastMember, ih]
      by_cases hkey : key = k
      · have hne : k' ≠ key := fun h => hk (h.trans hkey)
        simp only [if_pos hkey, if_neg hne]
      · simp only [if_neg hkey, lastMember]

/-- A dictionary has the values that count. -/
theorem lastMember_dictionary (key : String) (ms : List (String × Json)) :
    lastMember key (dictionary ms) = lastMember key ms := by
  induction ms with
  | nil => rfl
  | cons m ms ih =>
    obtain ⟨k, v⟩ := m
    rw [dictionary, lastMember, lastMember_filter, ih, lastMember]
    by_cases hkey : key = k
    · subst hkey
      cases lastMember key ms <;> simp
    · rw [if_neg hkey, if_neg (Ne.symm hkey), if_neg (Ne.symm hkey)]

theorem lastMember_decodedMembers (key : String) (ms : List (String × Json)) :
    lastMember key (decodedMembers ms) = (lastMember key ms).map decoded := by
  induction ms with
  | nil => rfl
  | cons m ms ih =>
    obtain ⟨k, v⟩ := m
    rw [decodedMembers, lastMember, ih, lastMember]
    cases lastMember key ms with
    | some w => rfl
    | none =>
      simp only [Option.map_none]
      split <;> rfl

/-- Decoding keeps the members of an object. -/
theorem get?_decoded (key : String) (v : Json) : v.decoded.get? key = (v.get? key).map decoded := by
  cases v with
  | object members =>
    simp only [decoded, get?, lastMember_dictionary, lastMember_decodedMembers]
  | _ => simp [decoded, get?]

end Json

namespace Document

variable {α β : Type}

/-! ### Outcomes that agree -/

/-- The place and the word of a fault, without what was found there. -/
def Fault.mark (f : Fault) : List Step × String := (f.path, f.cause.word)

namespace Checked

/-- An outcome with nothing but the marks of its faults. -/
def outline : Checked α → Except (List (List Step × String)) α
  | valid a => .ok a
  | faulty fs => .error (fs.map Fault.mark)

/-- How many faults an outcome has. -/
def faultCount : Checked α → Nat
  | valid _ => 0
  | faulty fs => fs.length

/-- Does an outcome agree with another in all but what was found, if this holds, and has it fewer
faults otherwise? -/
def AgreesIf (p : Prop) (x y : Checked α) : Prop :=
  p ∧ x.outline = y.outline ∨ ¬p ∧ x.faultCount < y.faultCount

theorem AgreesIf.congr {p q : Prop} {x y : Checked α} (h : AgreesIf p x y) (hpq : p ↔ q) :
    AgreesIf q x y := by
  rwa [AgreesIf, ← hpq]

theorem faultCount_of_outline {x y : Checked α} (h : x.outline = y.outline) :
    x.faultCount = y.faultCount := by
  cases x with
  | valid a =>
    cases y with
    | valid b => rfl
    | faulty gs => exact absurd h (by simp [outline])
  | faulty fs =>
    cases y with
    | valid b => exact absurd h (by simp [outline])
    | faulty gs =>
      have hmarks : fs.map Fault.mark = gs.map Fault.mark := Except.error.inj h
      simpa [faultCount] using congrArg List.length hmarks

theorem AgreesIf.faultCount_le {p : Prop} {x y : Checked α} (h : AgreesIf p x y) :
    x.faultCount ≤ y.faultCount := by
  rcases h with ⟨_, h⟩ | ⟨_, h⟩
  · exact Nat.le_of_eq (faultCount_of_outline h)
  · exact Nat.le_of_lt h

theorem outline_seq (x : Checked (α → β)) (y : Checked α) :
    (x <*> y).outline = match x.outline, y.outline with
      | .ok f, .ok a => .ok (f a)
      | .ok _, .error ms => .error ms
      | .error ls, .ok _ => .error ls
      | .error ls, .error ms => .error (ls ++ ms) := by
  show (both x y).outline = _
  cases x <;> cases y <;> simp [both, outline]

theorem faultCount_seq (x : Checked (α → β)) (y : Checked α) :
    (x <*> y).faultCount = x.faultCount + y.faultCount := by
  show (both x y).faultCount = _
  cases x <;> cases y <;> simp [both, faultCount]

/-- Two parts agree just if each does. -/
theorem AgreesIf.seq {p q : Prop} {x x' : Checked (α → β)} {y y' : Checked α} (hx : AgreesIf p x x')
    (hy : AgreesIf q y y') : AgreesIf (p ∧ q) (x <*> y) (x' <*> y') := by
  have hxle := hx.faultCount_le
  have hyle := hy.faultCount_le
  rcases hx with ⟨hp, hxsame⟩ | ⟨hp, hxless⟩
  · rcases hy with ⟨hq, hysame⟩ | ⟨hq, hyless⟩
    · exact Or.inl ⟨⟨hp, hq⟩, by rw [outline_seq, outline_seq, hxsame, hysame]⟩
    · exact Or.inr ⟨fun h => hq h.2, by rw [faultCount_seq, faultCount_seq]; omega⟩
  · exact Or.inr ⟨fun h => hp h.1, by rw [faultCount_seq, faultCount_seq]; omega⟩

theorem AgreesIf.pure (a : α) : AgreesIf True (valid a) (valid a) := Or.inl ⟨trivial, rfl⟩

theorem AgreesIf.map {p : Prop} {x x' : Checked α} (f : α → β) (h : AgreesIf p x x') :
    AgreesIf p (f <$> x) (f <$> x') :=
  ((AgreesIf.pure f).seq h).congr (by simp)

theorem outline_under (step : Step) (x : Checked α) :
    (x.under step).outline = x.outline.mapError fun ms => ms.map fun m => (step :: m.1, m.2) := by
  cases x <;> simp [under, outline, Except.mapError, Fault.mark, Function.comp_def]

theorem faultCount_under (step : Step) (x : Checked α) :
    (x.under step).faultCount = x.faultCount := by
  cases x <;> simp [under, faultCount]

theorem AgreesIf.under {p : Prop} {x x' : Checked α} (step : Step) (h : AgreesIf p x x') :
    AgreesIf p (x.under step) (x'.under step) := by
  rcases h with ⟨hp, hsame⟩ | ⟨hp, hless⟩
  · exact Or.inl ⟨hp, by rw [outline_under, outline_under, hsame]⟩
  · exact Or.inr ⟨hp, by rwa [faultCount_under, faultCount_under]⟩

/-- One fault each, of the same kind. -/
theorem AgreesIf.fault {c c' : Cause} (h : c.word = c'.word) (v w : Json) :
    AgreesIf True (fault c v : Checked α) (fault c' w) :=
  Or.inl ⟨trivial, by simp [Checked.fault, outline, Fault.mark, h]⟩

theorem AgreesIf.single {check check' : Json → Except Cause α} {v w : Json}
    (h : check v = check' w) : AgreesIf True (single check v) (single check' w) := by
  unfold Checked.single
  rw [h]
  split
  · exact AgreesIf.pure _
  · exact AgreesIf.fault rfl _ _

/-- Lists agree just if their items do, one by one. -/
theorem AgreesIf.eachFrom {p : Json → Prop} {check check' : Json → Checked α} {vs : List Json}
    (h : ∀ v ∈ vs, AgreesIf (p v) (check v) (check' v.decoded)) (i : Nat) :
    AgreesIf (∀ v ∈ vs, p v) (eachFrom check i vs) (eachFrom check' i (vs.map Json.decoded)) := by
  induction vs generalizing i with
  | nil => exact (AgreesIf.pure []).congr (by simp)
  | cons v vs ih =>
    have hhead := ((h v (by simp)).under (.index i)).map List.cons
    have htail := ih (fun w hw => h w (List.mem_cons_of_mem _ hw)) (i + 1)
    exact (hhead.seq htail).congr (by simp)

end Checked

open Checked

/-! ### Fields -/

section Fields

variable {v : Json} {name : String} {p : Json → Prop} {check check' : Json → Checked α}

/-- Fields agree just if what is there does. -/
theorem agreesIf_withDefault (v : Json) (name : String) (absent : α)
    (h : ∀ w, v.get? name = some w → AgreesIf (p w) (check w) (check' w.decoded)) :
    AgreesIf (∀ w, v.get? name = some w → p w) (withDefault v name absent check)
      (withDefault v.decoded name absent check') := by
  unfold withDefault
  rw [Json.get?_decoded]
  cases hv : v.get? name with
  | none => exact (AgreesIf.pure absent).congr (by simp)
  | some w => exact ((h w hv).under _).congr (by simp)

theorem agreesIf_required
    (h : ∀ w, v.get? name = some w → AgreesIf (p w) (check w) (check' w.decoded)) :
    AgreesIf (∀ w, v.get? name = some w → p w) (required v name check)
      (required v.decoded name check') := by
  unfold required
  rw [Json.get?_decoded]
  cases hv : v.get? name with
  | none => exact ((AgreesIf.fault rfl _ _).under _).congr (by simp)
  | some w => exact ((h w hv).under _).congr (by simp)

theorem agreesIf_checkList
    (h : ∀ items, v = .array items → ∀ w ∈ items, AgreesIf (p w) (check w) (check' w.decoded)) :
    AgreesIf (∀ items, v = .array items → ∀ w ∈ items, p w) (checkList check v)
      (checkList check' v.decoded) := by
  cases v with
  | array items =>
    rw [Json.decoded, Json.decodedItems_eq_map]
    exact (AgreesIf.eachFrom (h items rfl) 0).congr (by simp)
  | _ => exact (AgreesIf.fault rfl _ _).congr (by simp)

theorem agreesIf_checkObject {part : Part} {q : Prop} (hq : (∀ members, v ≠ .object members) → q)
    (h : AgreesIf q (check v) (check' v.decoded)) :
    AgreesIf q (checkObject part check v) (checkObject part check' v.decoded) := by
  cases v with
  | object members => exact h
  | _ => exact (AgreesIf.fault rfl _ _).congr (iff_of_true trivial (hq (by simp)))

end Fields

/-! ### Places in a document -/

/-- The item of an array at an index. -/
def item? (v : Json) (i : Nat) : Option Json :=
  match v with
  | .array items => items[i]?
  | _ => none

/-- The value at a path. -/
def valueAt? (v : Json) : List Step → Option Json
  | [] => some v
  | .field name :: path => (v.get? name).bind fun w => valueAt? w path
  | .index i :: path => (item? v i).bind fun w => valueAt? w path

/-- Does a part of a document expect a string at this path? -/
inductive ExpectsString : Part → List Step → Prop
  | table {name : String} (h : name ∈ ["id", "name"]) : ExpectsString .table [.field name]
  | column {name : String} (h : name ∈ ["id", "name", "type"]) : ExpectsString .column [.field name]
  | relation {name : String}
      (h : name ∈ ["id", "fromTableId", "fromColumnId", "toTableId", "toColumnId", "type"]) :
      ExpectsString .relation [.field name]
  | ofTable (i : Nat) {path : List Step} (h : ExpectsString .table path) :
      ExpectsString .schema (.field "tables" :: .index i :: path)
  | ofRelation (i : Nat) {path : List Step} (h : ExpectsString .relation path) :
      ExpectsString .schema (.field "relations" :: .index i :: path)
  | ofColumn (i : Nat) {path : List Step} (h : ExpectsString .column path) :
      ExpectsString .table (.field "columns" :: .index i :: path)

/-- Does a part of a document expect a coordinate at this path? -/
inductive ExpectsCoordinate : Part → List Step → Prop
  | position {name : String} (h : name ∈ ["x", "y"]) : ExpectsCoordinate .position [.field name]
  | ofPosition {path : List Step} (h : ExpectsCoordinate .position path) :
      ExpectsCoordinate .table (.field "position" :: path)
  | ofTable (i : Nat) {path : List Step} (h : ExpectsCoordinate .table path) :
      ExpectsCoordinate .schema (.field "tables" :: .index i :: path)

/-- Is this a double? -/
def IsReal (v : Json) : Prop := ∃ x, v = .number (.real x)

/-- Is this an integer beyond all doubles? -/
def IsHuge (v : Json) : Prop := ∃ n, v = .number (.int n) ∧ Number.isBeyondReals n = true

/-- Is there no double where a part of a document expects a string? -/
def HasNoRealString (part : Part) (v : Json) : Prop :=
  ∀ path u, ExpectsString part path → valueAt? v path = some u → ¬IsReal u

/-- Is there no integer beyond all doubles where a part of a document expects a coordinate? -/
def HasNoHugeCoordinate (part : Part) (v : Json) : Prop :=
  ∀ path u, ExpectsCoordinate part path → valueAt? v path = some u → ¬IsHuge u

section Places

variable {v w : Json} {path : List Step} {items : List Json} {name : String}

theorem valueAt?_field (h : v.get? name = some w) :
    valueAt? v (.field name :: path) = valueAt? w path := by
  rw [valueAt?, h, Option.bind_some]

theorem exists_of_valueAt?_field {u : Json} (h : valueAt? v (.field name :: path) = some u) :
    ∃ w, v.get? name = some w ∧ valueAt? w path = some u := by
  simpa only [valueAt?, Option.bind_eq_some_iff] using h

theorem get?_of_not_object (h : ∀ members, v ≠ .object members) (name : String) :
    v.get? name = none := by
  cases v with
  | object members => exact absurd rfl (h members)
  | _ => rfl

/-- The values at a path into the items of a list that a field holds. -/
theorem exists_index_iff {q : Json → Prop} (path : List Step) :
    (∀ i u, valueAt? v (.field name :: .index i :: path) = some u → q u) ↔
      ∀ w, v.get? name = some w → ∀ items, w = .array items → ∀ item ∈ items,
        ∀ u, valueAt? item path = some u → q u := by
  constructor
  · rintro h w hw items rfl item hitem u hu
    obtain ⟨i, hi, rfl⟩ := List.mem_iff_getElem.mp hitem
    refine h i u ?_
    rw [valueAt?_field hw, valueAt?, item?, List.getElem?_eq_getElem hi, Option.bind_some, hu]
  · intro h i u hu
    obtain ⟨w, hw, hu⟩ := exists_of_valueAt?_field hu
    rw [valueAt?, Option.bind_eq_some_iff] at hu
    obtain ⟨item, hitem, hu⟩ := hu
    cases w with
    | array items => exact h _ hw items rfl item (List.mem_of_getElem? hitem) u hu
    | _ => exact absurd hitem (by simp [item?])

theorem hasNoHugeCoordinate_position : HasNoHugeCoordinate .position v ↔
    (∀ w, v.get? "x" = some w → ¬IsHuge w) ∧ ∀ w, v.get? "y" = some w → ¬IsHuge w := by
  constructor
  · intro h
    exact ⟨fun w hw => h _ w (.position (by simp)) (valueAt?_field hw),
      fun w hw => h _ w (.position (by simp)) (valueAt?_field hw)⟩
  · rintro ⟨hx, hy⟩ path u hpath hu
    cases hpath with
    | position hname =>
      obtain ⟨w, hw, hwu⟩ := exists_of_valueAt?_field hu
      obtain rfl : w = u := Option.some.inj hwu
      simp only [List.mem_cons, List.not_mem_nil, or_false] at hname
      rcases hname with rfl | rfl
      · exact hx w hw
      · exact hy w hw

theorem hasNoHugeCoordinate_table : HasNoHugeCoordinate .table v ↔
    ∀ w, v.get? "position" = some w → HasNoHugeCoordinate .position w := by
  constructor
  · intro h w hw path u hpath hu
    exact h _ u (.ofPosition hpath) ((valueAt?_field hw).trans hu)
  · intro h path u hpath hu
    cases hpath with
    | ofPosition hpath =>
      obtain ⟨w, hw, hu⟩ := exists_of_valueAt?_field hu
      exact h w hw _ u hpath hu

theorem hasNoHugeCoordinate_schema : HasNoHugeCoordinate .schema v ↔
    ∀ w, v.get? "tables" = some w → ∀ items, w = .array items → ∀ item ∈ items,
      HasNoHugeCoordinate .table item := by
  constructor
  · intro h w hw items hitems item hitem path u hpath hu
    exact (exists_index_iff path).mp (fun i u hu => h _ u (.ofTable i hpath) hu) w hw items hitems
      item hitem u hu
  · intro h path u hpath hu
    cases hpath with
    | ofTable i hpath =>
      exact (exists_index_iff _).mpr (fun w hw items hitems item hitem u hu =>
        h w hw items hitems item hitem _ u hpath hu) i u hu

/-- What holds at the places in a list of parts holds in each of them. -/
theorem HasNoRealString.of_item {part inner : Part} (h : HasNoRealString part v)
    (hinner : ∀ i path, ExpectsString inner path →
      ExpectsString part (.field name :: .index i :: path))
    (hw : v.get? name = some w) (hitems : w = .array items) {item : Json} (hitem : item ∈ items) :
    HasNoRealString inner item := by
  intro path u hpath hu
  exact (exists_index_iff path).mp (fun i u hu => h _ u (hinner i path hpath) hu) w hw items hitems
    item hitem u hu

end Places

/-! ### Parts of a document -/

section Parts

variable {v w : Json} {name : String} {part : Part}

theorem readString_decoded (h : ¬IsReal w) : readString .text w = readString .value w.decoded := by
  cases w with
  | number n =>
    cases n with
    | int n => rfl
    | real x => exact absurd ⟨x, rfl⟩ h
  | _ => rfl

theorem readFlag_decoded (w : Json) : readFlag w = readFlag w.decoded := by
  cases w <;> rfl

theorem readCoordinate_value_int (n : Int) : readCoordinate .value (.number (.int n)) =
    if Number.isBeyondReals n then .error .notNumber else .ok (.real (Number.toReal (.int n))) :=
  rfl

/-- A coordinate is refused in just one form if it is beyond all doubles. -/
theorem agreesIf_readCoordinate (w : Json) :
    AgreesIf (¬IsHuge w) (single (readCoordinate .text) w)
      (single (readCoordinate .value) w.decoded) := by
  by_cases hhuge : IsHuge w
  · -- beyond all doubles: text is read as infinite, a value is refused
    obtain ⟨n, rfl, hn⟩ := hhuge
    refine Or.inr ⟨fun h => h ⟨n, rfl, hn⟩, ?_⟩
    have hvalue : readCoordinate .value (Json.number (.int n)).decoded = .error .notNumber :=
      (readCoordinate_value_int n).trans (if_pos hn)
    have htext : readCoordinate .text (.number (.int n)) = .ok (.real (Number.toReal (.int n))) :=
      rfl
    rw [single, single, hvalue, htext]
    exact Nat.zero_lt_one
  · have hsame : readCoordinate .text w = readCoordinate .value w.decoded := by
      cases w with
      | number n =>
        cases n with
        | int n =>
          have hn : ¬Number.isBeyondReals n = true := fun h => hhuge ⟨n, rfl, h⟩
          have hvalue : readCoordinate .value (Json.number (.int n)).decoded =
              .ok (.real (Number.toReal (.int n))) := (readCoordinate_value_int n).trans (if_neg hn)
          exact hvalue.symm
        | real x => rfl
      | _ => rfl
    exact (AgreesIf.single hsame).congr (by simp [hhuge])

/-- The strings in a part of a document agree. -/
theorem agreesIf_string {w : Json} (hpart : HasNoRealString part v)
    (hexpects : ExpectsString part [.field name]) (hw : v.get? name = some w) :
    AgreesIf True (single (readString .text) w) (single (readString .value) w.decoded) :=
  .single (readString_decoded (hpart _ w hexpects (valueAt?_field hw)))

theorem agreesIf_name (hpart : HasNoRealString part v)
    (hexpects : ExpectsString part [.field "name"]) :
    AgreesIf True (required v "name" (single (readName .text)))
      (required v.decoded "name" (single (readName .value))) :=
  (agreesIf_required (p := fun _ => True) fun w hw => .single (by
    rw [readName, readName, readString_decoded (hpart _ w hexpects (valueAt?_field hw))])).congr
      (by simp)

theorem agreesIf_stringField (hpart : HasNoRealString part v) (name : String) (absent : String)
    (hexpects : ExpectsString part [.field name]) :
    AgreesIf True (withDefault v name absent (single (readString .text)))
      (withDefault v.decoded name absent (single (readString .value))) :=
  (agreesIf_withDefault v name absent fun _ hw => agreesIf_string hpart hexpects hw).congr (by simp)

theorem agreesIf_checkId (hpart : HasNoRealString part v)
    (hexpects : ExpectsString part [.field "id"]) :
    AgreesIf True (checkId .text v) (checkId .value v.decoded) :=
  (agreesIf_withDefault v "id" none fun _ hw => (agreesIf_string hpart hexpects hw).map some).congr
    (by simp)

theorem agreesIf_flag (v : Json) (name : String) :
    AgreesIf True (withDefault v name false (single readFlag))
      (withDefault v.decoded name false (single readFlag)) :=
  (agreesIf_withDefault v name false fun w _ => .single (readFlag_decoded w)).congr (by simp)

theorem agreesIf_checkPosition (v : Json) :
    AgreesIf (HasNoHugeCoordinate .position v) (checkPosition .text v)
      (checkPosition .value v.decoded) := by
  refine agreesIf_checkObject ?_ ?_
  · intro hobject
    refine hasNoHugeCoordinate_position.mpr ⟨fun w hw => ?_, fun w hw => ?_⟩ <;>
      exact absurd hw (by rw [get?_of_not_object hobject]; simp)
  · refine AgreesIf.congr ?_ hasNoHugeCoordinate_position.symm
    exact ((agreesIf_withDefault v "x" 0 fun w _ => agreesIf_readCoordinate w).map Position.mk).seq
      (agreesIf_withDefault v "y" 0 fun w _ => agreesIf_readCoordinate w)

theorem agreesIf_checkColumn (hstrings : HasNoRealString .column v) :
    AgreesIf True (checkColumn .text v) (checkColumn .value v.decoded) := by
  refine agreesIf_checkObject (fun _ => trivial) ?_
  have hid := (agreesIf_checkId hstrings (.column (by simp))).map ColumnEntry.mk
  have hname := hid.seq (agreesIf_name hstrings (.column (by simp)))
  have htype := hname.seq (agreesIf_stringField hstrings "type" "text" (.column (by simp)))
  have hkey := htype.seq (agreesIf_flag v "isPrimaryKey")
  have hnull := hkey.seq (agreesIf_flag v "isNotNull")
  exact (hnull.seq (agreesIf_flag v "isUnique")).congr (by simp)

theorem agreesIf_checkRelation (hstrings : HasNoRealString .relation v) :
    AgreesIf True (checkRelation .text v) (checkRelation .value v.decoded) := by
  refine agreesIf_checkObject (fun _ => trivial) ?_
  have hid := (agreesIf_checkId hstrings (.relation (by simp))).map
    fun id fromTable fromColumn toTable toColumn type =>
      (⟨id, ⟨fromTable, fromColumn⟩, ⟨toTable, toColumn⟩, type⟩ : RelationEntry)
  -- field by field, in the order of the check
  have hfromTable := hid.seq (agreesIf_stringField hstrings "fromTableId" "" (.relation (by simp)))
  have hfromColumn :=
    hfromTable.seq (agreesIf_stringField hstrings "fromColumnId" "" (.relation (by simp)))
  have htoTable :=
    hfromColumn.seq (agreesIf_stringField hstrings "toTableId" "" (.relation (by simp)))
  have htoColumn :=
    htoTable.seq (agreesIf_stringField hstrings "toColumnId" "" (.relation (by simp)))
  exact (htoColumn.seq (agreesIf_stringField hstrings "type" _ (.relation (by simp)))).congr
    (by simp)

theorem agreesIf_checkTable (hstrings : HasNoRealString .table v) :
    AgreesIf (HasNoHugeCoordinate .table v) (checkTable .text v) (checkTable .value v.decoded) := by
  refine agreesIf_checkObject ?_ ?_
  · intro hobject
    refine hasNoHugeCoordinate_table.mpr fun w hw => ?_
    exact absurd hw (by rw [get?_of_not_object hobject]; simp)
  · have hid := (agreesIf_checkId hstrings (.table (by simp))).map TableEntry.mk
    have hname := hid.seq (agreesIf_name hstrings (.table (by simp)))
    -- a column has no coordinate; the only ones are in the position
    have hcolumns := hname.seq (agreesIf_withDefault v "columns" [] fun w hw =>
      agreesIf_checkList fun items hitems item hitem =>
        agreesIf_checkColumn (hstrings.of_item (fun i _ => .ofColumn i) hw hitems hitem))
    have hposition :=
      hcolumns.seq (agreesIf_withDefault v "position" ⟨0, 0⟩ fun w _ => agreesIf_checkPosition w)
    exact hposition.congr (by simp [hasNoHugeCoordinate_table])

/-- The checks of a document agree just if no coordinate is beyond all doubles. -/
theorem agreesIf_checkSchema (hstrings : HasNoRealString .schema v) :
    AgreesIf (HasNoHugeCoordinate .schema v) (checkSchema .text v)
      (checkSchema .value v.decoded) := by
  refine agreesIf_checkObject ?_ ?_
  · intro hobject
    refine hasNoHugeCoordinate_schema.mpr fun w hw => ?_
    exact absurd hw (by rw [get?_of_not_object hobject]; simp)
  · have htables := (agreesIf_required fun w hw =>
      agreesIf_checkList fun items hitems item hitem =>
        agreesIf_checkTable (hstrings.of_item (fun i _ => .ofTable i) hw hitems hitem)).map
          Entries.mk
    -- relations have no coordinates, so the tables decide
    have hrelations := htables.seq (agreesIf_withDefault v "relations" [] fun w hw =>
      agreesIf_checkList fun items hitems item hitem =>
        agreesIf_checkRelation (hstrings.of_item (fun i _ => .ofRelation i) hw hitems hitem))
    exact hrelations.congr (by simp [hasNoHugeCoordinate_schema])

end Parts

/-! ### Written values -/

theorem mem_numbers_of_get? {name : String} {v w : Json} (h : v.get? name = some w) {n : Number}
    (hn : n ∈ w.numbers) : n ∈ v.numbers := by
  cases v with
  | object members =>
    simp only [Json.get?] at h
    -- on the members, of which the last one with the name counts
    induction members with
    | nil => exact absurd h (by simp [Json.lastMember])
    | cons m ms ih =>
      obtain ⟨k, u⟩ := m
      rw [Json.lastMember] at h
      split at h
      · rename_i later hlater
        obtain rfl : later = w := Option.some.inj h
        exact List.mem_append_right _ (ih hlater)
      · split at h
        · obtain rfl : u = w := Option.some.inj h
          exact List.mem_append_left _ hn
        · exact absurd h (by simp)
  | _ => exact absurd h (by simp [Json.get?])

theorem mem_numbers_of_item? {v w : Json} {i : Nat} (h : item? v i = some w) {n : Number}
    (hn : n ∈ w.numbers) : n ∈ v.numbers := by
  cases v with
  | array items =>
    simp only [item?] at h
    induction items generalizing i with
    | nil => exact absurd h (by simp)
    | cons u us ih =>
      cases i with
      | zero =>
        obtain rfl : u = w := by simpa using h
        exact List.mem_append_left _ hn
      | succ i => exact List.mem_append_right _ (ih (by simpa using h))
  | _ => exact absurd h (by simp [item?])

theorem mem_numbers_of_valueAt? {v : Json} {path : List Step} {n : Number}
    (h : valueAt? v path = some (.number n)) : n ∈ v.numbers := by
  induction path generalizing v with
  | nil =>
    obtain rfl : v = .number n := Option.some.inj h
    exact List.mem_singleton.mpr rfl
  | cons step path ih =>
    cases step with
    | field name =>
      obtain ⟨w, hw, hn⟩ := Option.bind_eq_some_iff.mp h
      exact mem_numbers_of_get? hw (ih hn)
    | index i =>
      obtain ⟨w, hw, hn⟩ := Option.bind_eq_some_iff.mp h
      exact mem_numbers_of_item? hw (ih hn)

/-- A value of integers has no double anywhere. -/
theorem hasNoRealString_of_isWholeWithin {limit : Option Nat} {v : Json} (h : v.IsWholeWithin limit)
    (part : Part) : HasNoRealString part v := by
  rintro path _ _ hu ⟨x, rfl⟩
  exact h (.real x) (mem_numbers_of_valueAt? hu)

/-- A value of integers that is not too deep is read back from its text. -/
theorem readText_write {limit : Option Nat} (indent : Json.Indent) {v : Json}
    (h : v.IsWholeWithin limit)
    (hdepth : v.depth ≤ maxDepth) : readText limit (Json.write indent v) = some v := by
  rw [readText, Json.readWithin_write indent h, Option.filter_some_pos (by simpa using hdepth)]

/-! ### Loading -/

/-- What a caller learns of a loaded document: the drawing, or the marks of all faults. -/
def reported (outcome : Except (List Fault) Drawn) : Except (List (List Step × String)) Drawn :=
  outcome.mapError fun faults => faults.map Fault.mark

theorem reported_load (form : Form) (v : Json) (ids : IdSupply) :
    reported (load form v ids) =
      (checkSchema form v).outline.map fun entries => entries.load ids := by
  unfold load
  cases checkSchema form v <;> rfl

/-- Outcomes with one report have as many faults. -/
theorem faultCount_of_reported {v w : Json} {form form' : Form} {ids : IdSupply}
    (h : reported (load form v ids) = reported (load form' w ids)) :
    (checkSchema form v).faultCount = (checkSchema form' w).faultCount := by
  rw [reported_load, reported_load] at h
  cases hv : checkSchema form v with
  | valid entries =>
    cases hw : checkSchema form' w with
    | valid entries' => rfl
    | faulty gs =>
      rw [hv, hw] at h
      exact nomatch h
  | faulty fs =>
    cases hw : checkSchema form' w with
    | valid entries' =>
      rw [hv, hw] at h
      exact nomatch h
    | faulty gs =>
      rw [hv, hw] at h
      have hmarks : fs.map Fault.mark = gs.map Fault.mark := Except.error.inj h
      simpa [faultCount] using congrArg List.length hmarks

/-- A document with a key that comes twice, a null for an id, and a flag for a list. -/
def faultyValue : Json :=
  .object [("tables", .array [.object [("id", .null), ("name", .string ""), ("name", .number 7),
    ("position", .object [("x", .number 2)])]]), ("relations", .bool true)]

/-- Does a text without doubles for strings load as it loads decoded? -/
def LoadsAlike (text : String) : Prop :=
  ∀ v, readText (some maxWholeLength) text = some v → HasNoRealString .schema v →
    ∀ ids, reported (loadText text ids) = reported (load .value v.decoded ids)

/-- A table whose place is beyond all doubles. -/
def hugeValue : Json :=
  .object [("tables", .array [.object [("id", .string "t"), ("name", .string "t"),
    ("position", .object [("x", .number (.int (10 ^ 309)))])]])]

end Document

end SchemaDraft
