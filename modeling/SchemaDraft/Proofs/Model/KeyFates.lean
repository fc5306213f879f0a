import SchemaDraft.Proofs.Model.Resolve

/-!
What becomes of foreign keys. A key names two tables and a column in each, in any letter case: of
the tables with one name it means the last, and there the first column with its name
(`ForeignKey.Means`). Each key has exactly one fate: it means two columns, or a table is not there,
or only a column is not (`existsUnique_fate`). The relations connect what the keys mean, in order
and each pair of ends once, with the type that the first key between these ends gives them; every
other key leaves one notice (`exists_fate_buildRelations`).
-/

namespace SchemaDraft

/-! ### First and last -/

section FirstLast

variable {α : Type} {p : α → Prop} {as : List α} {a : α}

/-- Is this the first item with a property? -/
def IsFirst (p : α → Prop) (as : List α) (a : α) : Prop :=
  ∃ before after, as = before ++ a :: after ∧ p a ∧ ∀ b ∈ before, ¬p b

/-- Is this the last item with a property? -/
def IsLast (p : α → Prop) (as : List α) (a : α) : Prop :=
  ∃ before after, as = before ++ a :: after ∧ p a ∧ ∀ b ∈ after, ¬p b

theorem find?_eq_some_iff_isFirst [DecidablePred p] : as.find? p = some a ↔ IsFirst p as a := by
  rw [List.find?_eq_some_iff_append]
  constructor
  · rintro ⟨ha, before, after, hsplit, hbefore⟩
    exact ⟨before, after, hsplit, by simpa using ha, fun b hb => by simpa using hbefore b hb⟩
  · rintro ⟨before, after, hsplit, ha, hbefore⟩
    exact ⟨by simpa using ha, before, after, hsplit, fun b hb => by simpa using hbefore b hb⟩

theorem isFirst_reverse_iff : IsFirst p as.reverse a ↔ IsLast p as a := by
  constructor
  · rintro ⟨before, after, hsplit, ha, hbefore⟩
    refine ⟨after.reverse, before.reverse, ?_, ha, fun b hb => hbefore b (List.mem_reverse.mp hb)⟩
    simpa using congrArg List.reverse hsplit
  · rintro ⟨before, after, rfl, ha, hafter⟩
    exact ⟨after.reverse, before.reverse, by simp, ha,
      fun b hb => hafter b (List.mem_reverse.mp hb)⟩

end FirstLast

/-! ### Meanings -/

/-- Two columns, each with its table. -/
structure KeyEnds where
  fromTable : Table
  fromColumn : Column
  toTable : Table
  toColumn : Column

/-- The link between two columns. -/
def KeyEnds.link (e : KeyEnds) : Link := .between e.fromTable e.fromColumn e.toTable e.toColumn

/-- The ids of two columns and of their tables. -/
def KeyEnds.endpoints (e : KeyEnds) : Endpoint × Endpoint :=
  (⟨e.fromTable.id, e.fromColumn.id⟩, ⟨e.toTable.id, e.toColumn.id⟩)

variable {tables : List Table} {k : ForeignKey} {e e' : KeyEnds} {l : Link}

/-- Are there tables with both names of a key? -/
def ForeignKey.HasTables (tables : List Table) (k : ForeignKey) : Prop :=
  (∃ t ∈ tables, lowerName t.name = lowerName k.fromTable) ∧
    ∃ t ∈ tables, lowerName t.name = lowerName k.toTable

/-- Are these the columns that a key means? Of the tables with a name it means the last, and of its
columns with a name the first. -/
structure ForeignKey.Means (tables : List Table) (k : ForeignKey) (e : KeyEnds) : Prop where
  fromTable_last : IsLast (fun t => lowerName t.name = lowerName k.fromTable) tables e.fromTable
  toTable_last : IsLast (fun t => lowerName t.name = lowerName k.toTable) tables e.toTable
  fromColumn_first :
    IsFirst (fun c => lowerName c.name = lowerName k.fromColumn) e.fromTable.columns e.fromColumn
  toColumn_first :
    IsFirst (fun c => lowerName c.name = lowerName k.toColumn) e.toTable.columns e.toColumn

theorem tableNamed?_eq_some_iff_isLast {name : String} {t : Table} :
    tableNamed? tables name = some t ↔
    IsLast (fun t => lowerName t.name = lowerName name) tables t :=
  find?_eq_some_iff_isFirst.trans isFirst_reverse_iff

theorem columnNamed?_eq_some_iff_isFirst {t : Table} {name : String} {c : Column} :
    t.columnNamed? name = some c ↔
      IsFirst (fun c => lowerName c.name = lowerName name) t.columns c :=
  find?_eq_some_iff_isFirst

theorem exists_tableNamed?_iff {name : String} : (∃ t, tableNamed? tables name = some t) ↔
    ∃ t ∈ tables, lowerName t.name = lowerName name := by
  rw [← Option.isSome_iff_exists, tableNamed?, List.find?_isSome]
  simp

namespace ForeignKey

theorem means_iff : k.Means tables e ↔
    (tableNamed? tables k.fromTable = some e.fromTable ∧
      tableNamed? tables k.toTable = some e.toTable) ∧
      e.fromTable.columnNamed? k.fromColumn = some e.fromColumn ∧
      e.toTable.columnNamed? k.toColumn = some e.toColumn := by
  simp only [tableNamed?_eq_some_iff_isLast, columnNamed?_eq_some_iff_isFirst]
  exact ⟨fun h => ⟨⟨h.fromTable_last, h.toTable_last⟩, h.fromColumn_first, h.toColumn_first⟩,
    fun h => ⟨h.1.1, h.1.2, h.2.1, h.2.2⟩⟩

/-- A key means no more than one pair of columns. -/
theorem Means.unique (h : k.Means tables e) (h' : k.Means tables e') : e = e' := by
  obtain ⟨⟨hfrom, hto⟩, hsource, htarget⟩ := means_iff.mp h
  obtain ⟨⟨hfrom', hto'⟩, hsource', htarget'⟩ := means_iff.mp h'
  obtain ⟨fromTable, fromColumn, toTable, toColumn⟩ := e
  obtain ⟨fromTable', fromColumn', toTable', toColumn'⟩ := e'
  obtain rfl : fromTable = fromTable' := Option.some.inj (hfrom.symm.trans hfrom')
  obtain rfl : toTable = toTable' := Option.some.inj (hto.symm.trans hto')
  obtain rfl : fromColumn = fromColumn' := Option.some.inj (hsource.symm.trans hsource')
  obtain rfl : toColumn = toColumn' := Option.some.inj (htarget.symm.trans htarget')
  rfl

end ForeignKey

/-! ### Fates -/

/-- What may become of a key. -/
inductive KeyFate where
  | means (e : KeyEnds)
  | noTable
  | noColumn

namespace KeyFate

variable {f g : KeyFate}

/-- Is this what becomes of a key among some tables? -/
def IsOf (tables : List Table) (k : ForeignKey) : KeyFate → Prop
  | means e => k.Means tables e
  | noTable => ¬k.HasTables tables
  | noColumn => k.HasTables tables ∧ ∀ e, ¬k.Means tables e

/-- The columns that a key of this fate means. -/
def ends? : KeyFate → Option KeyEnds
  | means e => some e
  | noTable | noColumn => none

/-- The notice that a key of this fate leaves. -/
def notice? (k : ForeignKey) : KeyFate → Option Notice
  | means _ => none
  | noTable => some (.keyToUnknownTable k)
  | noColumn => some (.keyToUnknownColumn k)

/-- What resolving a key of this fate gives. -/
def outcome (k : ForeignKey) : KeyFate → Except Notice Link
  | means e => .ok e.link
  | noTable => .error (.keyToUnknownTable k)
  | noColumn => .error (.keyToUnknownColumn k)

/-- Resolving a key says what becomes of it. -/
theorem IsOf.resolve_eq (h : f.IsOf tables k) : k.resolve tables = f.outcome k := by
  cases f with
  | means e =>
    obtain ⟨⟨hfrom, hto⟩, hsource, htarget⟩ := ForeignKey.means_iff.mp h
    exact resolve_eq_ok_iff.mpr ⟨_, _, _, _, hfrom, hto, hsource, htarget, rfl⟩
  | noTable =>
    unfold ForeignKey.resolve
    split
    · rename_i fromTable toTable hfrom hto
      exact absurd ⟨exists_tableNamed?_iff.mp ⟨_, hfrom⟩, exists_tableNamed?_iff.mp ⟨_, hto⟩⟩ h
    · rfl
  | noColumn =>
    obtain ⟨⟨hfrom, hto⟩, hnone⟩ := h
    obtain ⟨fromTable, hfrom⟩ := exists_tableNamed?_iff.mpr hfrom
    obtain ⟨toTable, hto⟩ := exists_tableNamed?_iff.mpr hto
    simp only [ForeignKey.resolve, hfrom, hto]
    split
    · rename_i fromColumn toColumn hsource htarget
      exact absurd (ForeignKey.means_iff.mpr ⟨⟨hfrom, hto⟩, hsource, htarget⟩)
        (hnone ⟨fromTable, fromColumn, toTable, toColumn⟩)
    · rfl

theorem IsOf.unique (hf : f.IsOf tables k) (hg : g.IsOf tables k) : f = g := by
  have hsame : f.outcome k = g.outcome k := hf.resolve_eq.symm.trans hg.resolve_eq
  cases f with
  | means e =>
    cases g with
    | means e' => exact congrArg means (ForeignKey.Means.unique hf hg)
    | noTable | noColumn => exact absurd hsame (by simp [outcome])
  | noTable =>
    cases g with
    | noTable => rfl
    | means _ | noColumn => exact absurd hsame (by simp [outcome])
  | noColumn =>
    cases g with
    | noColumn => rfl
    | means _ | noTable => exact absurd hsame (by simp [outcome])

/-- Every key has exactly one fate. -/
theorem existsUnique_fate (tables : List Table) (k : ForeignKey) :
    ∃! f : KeyFate, f.IsOf tables k := by
  refine existsUnique_of_exists_of_unique ?_ fun f g hf hg => hf.unique hg
  by_cases hmeans : ∃ e, k.Means tables e
  · obtain ⟨e, he⟩ := hmeans
    exact ⟨means e, he⟩
  by_cases htables : k.HasTables tables
  · exact ⟨noColumn, htables, not_exists.mp hmeans⟩
  · exact ⟨noTable, htables⟩

theorem toOption_outcome (f : KeyFate) (k : ForeignKey) :
    (f.outcome k).toOption = f.ends?.map KeyEnds.link := by
  cases f <;> rfl

theorem noticeOf?_outcome (f : KeyFate) (k : ForeignKey) :
    noticeOf? (f.outcome k) = f.notice? k := by
  cases f <;> rfl

end KeyFate

/-! ### Distinct links -/

/-- The ends of a link. -/
def Link.endpoints (l : Link) : Endpoint × Endpoint := (l.source, l.target)

theorem Link.sameEnds_iff_endpoints {a b : Link} :
    a.sameEnds b = true ↔ a.endpoints = b.endpoints := by
  rw [sameEnds_iff, endpoints, endpoints, Prod.mk.injEq]

theorem endpoints_distinctLinksFrom (seen links : List Link) :
    (distinctLinksFrom seen links).map Link.endpoints =
      ((links.map Link.endpoints).filter fun e => !seen.any (·.endpoints == e)).eraseDups := by
  -- on the links, with those that were kept in `seen`
  induction links generalizing seen with
  | nil => rfl
  | cons first links ih =>
    have hany : seen.any (·.sameEnds first) = seen.any (·.endpoints == first.endpoints) := by
      rw [Bool.eq_iff_iff]
      simp only [List.any_eq_true, beq_iff_eq, Link.sameEnds_iff_endpoints]
    rw [distinctLinksFrom, List.map_cons, hany]
    cases hold : seen.any (·.endpoints == first.endpoints) with
    | true => rw [if_pos rfl, List.filter_cons_of_neg (by simp [hold]), ih seen]
    | false =>
      rw [if_neg (by simp), List.map_cons, List.filter_cons_of_pos (by simp [hold]),
        List.eraseDups_cons, List.filter_filter, ih (first :: seen)]
      congr 3
      funext e
      rw [List.any_cons, Bool.not_or, BEq.comm (a := e)]

/-- Pairs of ends stay where they come first. -/
theorem endpoints_distinctLinks (links : List Link) :
    (distinctLinks links).map Link.endpoints = (links.map Link.endpoints).eraseDups := by
  rw [distinctLinks, endpoints_distinctLinksFrom]
  simp

/-- A link that stays is the first of those with its ends. -/
theorem find?_of_mem_distinctLinksFrom {seen links : List Link}
    (h : l ∈ distinctLinksFrom seen links) : links.find? (·.endpoints = l.endpoints) = some l := by
  induction links generalizing seen with
  | nil => exact absurd h (by simp [distinctLinksFrom])
  | cons first links ih =>
    rw [distinctLinksFrom] at h
    split at h
    · -- a link that is left out has the ends of an earlier one, so it is not the first with its
      -- ends
      rename_i hold
      obtain ⟨s, hs, hsame⟩ := List.any_eq_true.mp hold
      have hnew := (mem_distinctLinksFrom h).2 s hs
      rw [Link.sameEnds_iff_endpoints] at hsame hnew
      have hother : first.endpoints ≠ l.endpoints := fun heq => hnew (hsame.trans heq)
      rw [List.find?_cons_of_neg (by simpa using hother), ih h]
    · rcases List.mem_cons.mp h with rfl | hrest
      · exact List.find?_cons_of_pos (by simp)
      · have hother := (mem_distinctLinksFrom hrest).2 first (by simp)
        rw [Link.sameEnds_iff_endpoints] at hother
        rw [List.find?_cons_of_neg (by simpa using hother), ih hrest]

/-! ### Relations and notices -/

/-- The ends of a relation. -/
def Relation.endpoints (r : Relation) : Endpoint × Endpoint := (r.source, r.target)

/-- The links of those foreign keys whose ends are found, repeated ones too. -/
def foundLinks (tables : List Table) (keys : List ForeignKey) : List Link :=
  keys.filterMap fun k => (k.resolve tables).toOption

/-- Relations connect the ends of the links that are found, each where it comes first. -/
theorem endpoints_buildRelations (tables : List Table) (keys : List ForeignKey) (ids : IdSupply) :
    (buildRelations tables keys ids).1.map Relation.endpoints =
      ((foundLinks tables keys).map Link.endpoints).eraseDups := by
  have hends := congrArg (List.map fun x => (x.1, x.2.1)) (ends_buildRelations tables keys ids)
  rw [List.map_map, List.map_map] at hends
  rw [← endpoints_distinctLinks]
  exact hends

/-- A relation has the type of the first link between its ends. -/
theorem exists_first_of_mem_buildRelations {keys : List ForeignKey} {ids : IdSupply} {r : Relation}
    (h : r ∈ (buildRelations tables keys ids).1) :
    ∃ l, (foundLinks tables keys).find? (·.endpoints = r.endpoints) = some l ∧
      r.type = l.cardinality.name := by
  obtain ⟨_, _, l, _, hl, hends⟩ := exists_key_of_mem_buildRelations h
  obtain ⟨hsource, htarget, htype⟩ : r.source = l.source ∧ r.target = l.target ∧
      r.type = l.cardinality.name := by
    simpa only [Relation.ends, Prod.mk.injEq] using hends
  have hsame : r.endpoints = l.endpoints := by
    rw [Relation.endpoints, hsource, htarget, Link.endpoints]
  exact ⟨l, hsame ▸ find?_of_mem_distinctLinksFrom hl, htype⟩

/-- The relations of some foreign keys connect the columns that these mean, in the order of the keys
and each pair of ends once; their type is that of the first key between their ends, and each key
that means no columns leaves one notice, which says whether a table or only a column is missing. -/
theorem exists_fate_buildRelations (tables : List Table) (keys : List ForeignKey) (ids : IdSupply) :
    ∃ fate : ForeignKey → KeyFate, (∀ k f, f.IsOf tables k ↔ f = fate k) ∧
      let relations := (buildRelations tables keys ids).1
      let meant := keys.filterMap fun k => (fate k).ends?
      relations.map Relation.endpoints = (meant.map KeyEnds.endpoints).eraseDups ∧
        (∀ r ∈ relations, ∃ e, meant.find? (·.endpoints = r.endpoints) = some e ∧
          r.type = if e.fromColumn.isUnique then "1:1" else "1:N") ∧
        unresolvedNotices tables keys = keys.filterMap fun k => (fate k).notice? k := by
  choose fate hfate honly using KeyFate.existsUnique_fate tables
  have hresolve : ∀ k : ForeignKey, k.resolve tables = (fate k).outcome k :=
    fun k => (hfate k).resolve_eq
  refine ⟨fate, fun k f => ⟨honly k f, fun h => h ▸ hfate k⟩, ?_⟩
  intro relations meant
  have hlinks : foundLinks tables keys = meant.map KeyEnds.link := by
    simp only [foundLinks, meant, hresolve, KeyFate.toOption_outcome, List.map_filterMap]
  refine ⟨?_, fun r hr => ?_, ?_⟩
  · rw [endpoints_buildRelations, hlinks, List.map_map]
    rfl
  · obtain ⟨l, hfirst, htype⟩ := exists_first_of_mem_buildRelations hr
    rw [hlinks, List.find?_map] at hfirst
    obtain ⟨e, he, rfl⟩ := Option.map_eq_some_iff.mp hfirst
    refine ⟨e, he, htype.trans ?_⟩
    -- the type is that of the first link with these ends
    cases hunique : e.fromColumn.isUnique <;>
      simp [KeyEnds.link, Link.between, hunique, Cardinality.name]
  · simp only [unresolvedNotices, hresolve, KeyFate.noticeOf?_outcome]

/-- Where ids repeat, two keys may have the same ends with different columns: the first one gives
the type. -/
example :
    let table (name : String) (isUnique : Bool) : Table :=
      ⟨"t", name, [⟨⟨"x", "text", false, false, isUnique⟩, "a"⟩], ⟨0, 0⟩⟩
    let keys := [⟨"Old", "x", "new", "X"⟩, ⟨"new", "x", "new", "x"⟩, ⟨"new", "y", "lost", "x"⟩]
    let tables := [table "old" false, table "new" true]
    (buildRelations tables keys ⟨fun _ => "r", 0⟩).1 = [⟨"r", ⟨"t", "a"⟩, ⟨"t", "a"⟩, "1:N"⟩] ∧
      unresolvedNotices tables keys = [.keyToUnknownTable ⟨"new", "y", "lost", "x"⟩] := by
  decide +kernel

end SchemaDraft
