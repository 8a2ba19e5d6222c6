import Mathlib.Data.List.Forall2
import RecordSearch.Proofs.Filter.RoundTrip
import RecordSearch.Proofs.Filter.ShortCircuit
import RecordSearch.Proofs.Query.Answers
import RecordSearch.Proofs.Record.Reordered

/-!
# What a query depends on

A query sees of a record what is found at the fields of its filter and at the paths of its
projection, and nothing else. Records that are related there, by a relation of values that tells
scalars apart, match alike and have related documents, so scans of stores with related records fetch
the same ids and come to related outcomes. Equality is one such relation; to differ at most in the
order of members is another one.
-/

namespace RecordSearch

section Values

variable {alike : Json → Json → Prop}

/-- Values that are related are equal if one of them is a scalar. -/
def TellsScalars (alike : Json → Json → Prop) : Prop :=
  ∀ value other, alike value other →
    other.isScalar = value.isScalar ∧ (value.isScalar = true → other = value)

/-- Equality tells scalars apart. -/
theorem tellsScalars_eq : TellsScalars Eq := by
  rintro value _ rfl
  exact ⟨rfl, fun _ => rfl⟩

/-- The order of members is not what tells scalars apart. -/
theorem tellsScalars_sameButOrder : TellsScalars Json.SameButOrder := fun _ _ same =>
  ⟨same.isScalar_eq, same.eq_of_isScalar⟩

/-- What is found at the paths is related. -/
def Record.AlikeAt (alike : Json → Json → Prop) (paths : List String) (record other : Record) :
    Prop :=
  ∀ path ∈ paths, Option.Rel alike (record.get? path) (other.get? path)

/-- A comparison with what is no scalar does not hold. -/
theorem Comparison.holdsOf_of_not_isScalar {record : Record} {c : Comparison} {value : Json}
    (found : record.get? c.field = some value) (composite : value.isScalar = false) :
    c.holdsOf record = .ok false := by
  unfold holdsOf
  rw [found]
  cases value with
  | array items => rfl
  | object members => rfl
  | null | bool _ | number _ | string _ => cases composite

/-- A comparison is decided alike by what is found under its field. -/
theorem Comparison.holdsOf_alike (tells : TellsScalars alike) {record other : Record}
    {c : Comparison} (found : Option.Rel alike (record.get? c.field) (other.get? c.field)) :
    c.holdsOf other = c.holdsOf record := by
  generalize atField : record.get? c.field = value at found
  generalize otherAtField : other.get? c.field = otherValue at found
  cases found with
  | none => rw [holdsOf, holdsOf, atField, otherAtField]
  | @some value otherValue related =>
    obtain ⟨sameScalar, equal⟩ := tells value otherValue related
    cases isScalar : value.isScalar with
    | true => rw [holdsOf, holdsOf, atField, otherAtField, equal isScalar]
    | false =>
      rw [holdsOf_of_not_isScalar atField isScalar,
        holdsOf_of_not_isScalar otherAtField (sameScalar.trans isScalar)]

/-- The fields that a filter compares. -/
def Filter.fields (f : Filter) : List String := f.comparisons.map Comparison.field

/-- A filter holds alike of records that are related at its fields. -/
theorem Filter.holdsOf_alike (tells : TellsScalars alike) {f : Filter} {record other : Record}
    (related : Record.AlikeAt alike f.fields record other) :
    f.holdsOf other = f.holdsOf record := by
  unfold Filter.holdsOf
  rw [walk_eq_of_agree]
  intro c isAsked
  have isIn : c ∈ f.comparisons := (follows_walk _ f).inOrder.subset isAsked
  exact Comparison.holdsOf_alike tells (related c.field (List.mem_map_of_mem isIn))

/-- The documents have the same keys in the same order, with related values. -/
def DocumentsAlike (alike : Json → Json → Prop) : Document → Document → Prop :=
  List.Forall₂ fun member other => member.1 = other.1 ∧ alike member.2 other.2

/-- Records that are related at the paths of a projection have related documents. -/
theorem Projection.apply_alike {projection : Projection} {record other : Record}
    (related : Record.AlikeAt alike projection.paths record other) :
    DocumentsAlike alike (projection.apply record) (projection.apply other) := by
  have samePaths : List.Forall₂
      (fun path own => path = own ∧ Option.Rel alike (record.get? path) (other.get? own))
      projection.paths projection.paths :=
    List.forall₂_same.2 fun path isPath => ⟨rfl, related path isPath⟩
  refine List.rel_filterMap ?_ samePaths
  rintro path _ ⟨rfl, found⟩
  dsimp only
  generalize record.get? path = value at found
  generalize other.get? path = otherValue at found
  cases found with
  | none => exact .none
  | some same => exact .some ⟨rfl, same⟩

end Values

section Scans

variable {related : Record → Record → Prop}

/-- The fetches come to the same, except that records may be other, related ones. -/
inductive Fetched.Alike (related : Record → Record → Prop) : Fetched → Fetched → Prop where
  | record {found other : Record} (same : related found other) :
    Alike related (.record found) (.record other)
  | absent : Alike related .absent .absent
  | failed (error : StoreError) : Alike related (.failed error) (.failed error)
  | hangs : Alike related .hangs .hangs

/-- The stores have the same ids, as available in the one as in the other, with related records. -/
structure Store.Alike (related : Record → Record → Prop) (store other : Store) : Prop where
  ids : store.ids = other.ids
  cancels : ∀ ids, store.ids = .ok ids → ∀ id ∈ ids,
    (store.fetch id).cancels = (other.fetch id).cancels
  fetched : ∀ ids, store.ids = .ok ids → ∀ id ∈ ids,
    Fetched.Alike related (store.fetch id).fetched (other.fetch id).fetched

/-- The outcomes are the same, except that documents may be other, related ones. -/
inductive OutcomesAlike (alike : Json → Json → Prop) :
    Outcome Documents → Outcome Documents → Prop where
  | hangs : OutcomesAlike alike .hangs .hangs
  | failed (error : QueryError) :
    OutcomesAlike alike (.answers (.error error)) (.answers (.error error))
  | answered {documents others : List Document}
    (same : List.Forall₂ (DocumentsAlike alike) documents others) :
    OutcomesAlike alike (.answers (.ok documents)) (.answers (.ok others))

/-- The scans fetch the same ids, leave the same token and have related outcomes. -/
structure Scan.Alike (alike : Json → Json → Prop) (scan other : Scan) : Prop where
  fetches : scan.fetches = other.fetches
  cancelled : scan.cancelled = other.cancelled
  outcome : OutcomesAlike alike scan.outcome other.outcome

/-- Related records match alike and have related documents. -/
structure SeenAlike (related : Record → Record → Prop) (alike : Json → Json → Prop)
    (filter : Filter) (projection : Projection) : Prop where
  holds : ∀ record other, related record other → filter.holdsOf other = filter.holdsOf record
  documents : ∀ record other, related record other →
    DocumentsAlike alike (projection.apply record) (projection.apply other)

variable {alike : Json → Json → Prop} {filter : Filter} {projection : Projection}
  {fetched otherFetched : Fetched} {store other : Store} {ids : List Nat}

/-- A refused outcome is related to itself. -/
theorem outcomesAlike_error (stop : Outcome QueryError) :
    OutcomesAlike alike (stop.map .error) (stop.map .error) := by
  cases stop with
  | answers error => exact .failed error
  | hangs => exact .hangs

/-- Scans that are alike stay so with one more fetch before them that gave related documents. -/
theorem Scan.Alike.after {scan otherScan : Scan} (id : Nat) {documents others : List Document}
    (same : List.Forall₂ (DocumentsAlike alike) documents others)
    (later : Scan.Alike alike scan otherScan) :
    Scan.Alike alike (scan.after id documents) (otherScan.after id others) where
  fetches := congrArg (id :: ·) later.fetches
  cancelled := later.cancelled
  outcome := by
    obtain ⟨_, _, outcome⟩ := scan
    obtain ⟨_, _, otherOutcome⟩ := otherScan
    cases later.outcome with
    | hangs => exact .hangs
    | failed error => exact .failed error
    | answered more => exact .answered (List.rel_append same more)

section Seen

variable (seen : SeenAlike related alike filter projection)

include seen

/-- What stops a fetch stops one that comes to the same. -/
theorem Fetched.Alike.stop?_eq (same : Fetched.Alike related fetched otherFetched) :
    otherFetched.stop? filter = fetched.stop? filter := by
  cases same with
  | record same => rw [Fetched.stop?, Fetched.stop?, seen.holds _ _ same]
  | absent | failed | hangs => rfl

/-- Fetches that come to the same have related documents. -/
theorem Fetched.Alike.documents (same : Fetched.Alike related fetched otherFetched) :
    List.Forall₂ (DocumentsAlike alike) (fetched.document? filter projection).toList
      (otherFetched.document? filter projection).toList := by
  cases same with
  | @record found other same =>
    rw [Fetched.document?, Fetched.document?, seen.holds _ _ same]
    cases filter.holdsOf found with
    | error error => exact .nil
    | ok holds =>
      cases holds with
      | true => exact .cons (seen.documents _ _ same) .nil
      | false => exact .nil
  | absent | failed | hangs => exact .nil

/-- Scans of fetches that come to the same are alike. -/
theorem Scan.run_alike (cancelled : Bool)
    (sameCancels : ∀ id ∈ ids, (store.fetch id).cancels = (other.fetch id).cancels)
    (sameFetched : ∀ id ∈ ids,
      Fetched.Alike related (store.fetch id).fetched (other.fetch id).fetched) :
    Scan.Alike alike (Scan.run store filter projection cancelled ids)
      (Scan.run other filter projection cancelled ids) := by
  induction ids generalizing cancelled with
  | nil => exact ⟨rfl, rfl, .answered .nil⟩
  | cons id ids ih =>
    obtain ⟨cancels, laterCancels⟩ := List.forall_mem_cons.1 sameCancels
    obtain ⟨first, laterFetched⟩ := List.forall_mem_cons.1 sameFetched
    cases cancelled with
    | true =>
      rw [Scan.run_cancelled, Scan.run_cancelled]
      exact ⟨rfl, rfl, .failed .cancelled⟩
    | false =>
      cases stops : (store.fetch id).fetched.stop? filter with
      | some stop =>
        rw [Scan.run_stop stops, Scan.run_stop ((first.stop?_eq seen).trans stops)]
        exact ⟨rfl, cancels, outcomesAlike_error stop⟩
      | none =>
        rw [Scan.run_answered stops, Scan.run_answered ((first.stop?_eq seen).trans stops),
          ← cancels]
        exact (ih (store.fetch id).cancels laterCancels laterFetched).after id
          (first.documents seen)

end Seen

/-- Scans of a query are alike in stores with related records. -/
theorem Scan.ofParsed_alike {query : Query} (same : Store.Alike related store other)
    (seen : SeenAlike related alike filter (.ofPaths query.projection)) (cancelled : Bool) :
    Scan.Alike alike (Scan.ofParsed store query cancelled (.ok filter))
      (Scan.ofParsed other query cancelled (.ok filter)) := by
  have sameIds := same.ids
  unfold Scan.ofParsed
  cases listed : store.ids with
  | error error =>
    rw [listed] at sameIds
    rw [← sameIds]
    exact ⟨rfl, rfl, .failed (.store error)⟩
  | ok ids =>
    rw [listed] at sameIds
    rw [← sameIds]
    exact Scan.run_alike seen cancelled (same.cancels ids listed) (same.fetched ids listed)

/-- Scans with equal values in their documents are equal. -/
theorem Scan.Alike.eq {scan otherScan : Scan} (same : Scan.Alike Eq scan otherScan) :
    scan = otherScan := by
  have sameDocument : DocumentsAlike Eq = Eq := by
    have sameMember : (fun member other : String × Json =>
        member.1 = other.1 ∧ member.2 = other.2) = Eq := by
      funext member other
      exact propext Prod.ext_iff.symm
    rw [DocumentsAlike, sameMember, List.forall₂_eq_eq_eq]
  obtain ⟨fetches, cancelled, outcome⟩ := scan
  obtain ⟨otherFetches, otherCancelled, otherOutcome⟩ := otherScan
  obtain ⟨rfl, rfl, sameOutcome⟩ := same
  congr 1
  cases sameOutcome with
  | hangs => rfl
  | failed error => rfl
  | answered documents =>
    rw [sameDocument, List.forall₂_eq_eq_eq] at documents
    rw [documents]

end Scans

section Queries

variable {filter : Filter} {query : Query}

/-- Records that are related at the fields of a filter and at the paths of a query match alike and
have related documents. -/
theorem seenAlike_alikeAt {alike : Json → Json → Prop} (tells : TellsScalars alike) :
    SeenAlike (Record.AlikeAt alike (filter.fields ++ query.projection)) alike filter
      (.ofPaths query.projection) where
  holds := fun _ _ same => Filter.holdsOf_alike tells fun field isField =>
    same field (List.mem_append_left _ isField)
  documents := fun _ _ same => Projection.apply_alike fun path isPath =>
    same path (List.mem_append_right _ (mem_firstOccurrences.1 isPath).1)

/-- Relating more records leaves stores alike. -/
theorem Store.Alike.mono {related coarser : Record → Record → Prop} {store other : Store}
    (same : Store.Alike related store other)
    (implies : ∀ record other, related record other → coarser record other) :
    Store.Alike coarser store other where
  ids := same.ids
  cancels := same.cancels
  fetched := fun ids listed id isListed => by
    have sameFetched := same.fetched ids listed id isListed
    generalize (store.fetch id).fetched = fetched at sameFetched
    generalize (other.fetch id).fetched = otherFetched at sameFetched
    cases sameFetched with
    | record same => exact .record (implies _ _ same)
    | absent => exact .absent
    | failed error => exact .failed error
    | hangs => exact .hangs

/-- Records that differ at most in the order of keys are related at any paths. -/
theorem Record.alikeAt_sameButOrder {record other : Record} (paths : List String)
    (same : Json.SameButOrder record.json other.json) :
    Record.AlikeAt Json.SameButOrder paths record other :=
  fun path _ => Record.get?_sameButOrder same path

/-- Records with the same values at the paths are related there by equality. -/
theorem Record.alikeAt_eq {record other : Record} {paths : List String}
    (same : ∀ path ∈ paths, record.get? path = other.get? path) :
    Record.AlikeAt Eq paths record other := by
  intro path isPath
  rw [same path isPath]
  cases other.get? path with
  | none => exact .none
  | some value => exact .some rfl

/-- Whatever executors parsed before, stores that are alike at what a query sees are scanned alike
for it. -/
theorem Executor.execute_alike {alike : Json → Json → Prop} (tells : TellsScalars alike)
    (parsed : Filter.parse query.filters = .ok filter) {left right : Store}
    (same : Store.Alike (Record.AlikeAt alike (filter.fields ++ query.projection)) left right)
    (capacity otherCapacity : Option Nat) (texts otherTexts : List String) (cancelled : Bool) :
    Scan.Alike alike (((fresh left capacity).afterTexts texts).execute query cancelled).1
      (((fresh right otherCapacity).afterTexts otherTexts).execute query cancelled).1 := by
  obtain ⟨sound, sameStore⟩ := sound_afterTexts (sound_fresh left capacity) texts
  obtain ⟨otherSound, otherSameStore⟩ :=
    sound_afterTexts (sound_fresh right otherCapacity) otherTexts
  rw [execute_fst sound, execute_fst otherSound, sameStore, otherSameStore, parsed]
  exact Scan.ofParsed_alike same (seenAlike_alikeAt tells) cancelled

/-- A query whose filter text parses depends on records only through what is found at the fields of
its filter and at its paths: stores whose records agree there are scanned to the same outcome. And
where records differ in the order of keys at any depth, the same ones match or are refused, and
their documents have the same keys in the same order, with values that differ at most in the order
of keys. -/
theorem Executor.execute_named_paths (parsed : Filter.parse query.filters = .ok filter)
    (left right : Store) (capacity otherCapacity : Option Nat) (texts otherTexts : List String)
    (cancelled : Bool) :
    (Store.Alike (fun record other =>
          ∀ path ∈ filter.fields ++ query.projection, record.get? path = other.get? path)
        left right →
      (((fresh left capacity).afterTexts texts).execute query cancelled).1 =
        (((fresh right otherCapacity).afterTexts otherTexts).execute query cancelled).1) ∧
    (Store.Alike (fun record other => Json.SameButOrder record.json other.json) left right →
      Scan.Alike Json.SameButOrder
        (((fresh left capacity).afterTexts texts).execute query cancelled).1
        (((fresh right otherCapacity).afterTexts otherTexts).execute query cancelled).1) ∧
    ∀ record other : Record, Json.SameButOrder record.json other.json →
      filter.holdsOf other = filter.holdsOf record ∧
      DocumentsAlike Json.SameButOrder
        ((Projection.ofPaths query.projection).apply record)
        ((Projection.ofPaths query.projection).apply other) := by
  refine ⟨fun agree => ?_, fun reordered => ?_, fun record other reordered => ?_⟩
  · have related := agree.mono fun _ _ => Record.alikeAt_eq
    exact (execute_alike tellsScalars_eq parsed related capacity otherCapacity texts otherTexts
      cancelled).eq
  · have related := reordered.mono fun _ _ =>
      Record.alikeAt_sameButOrder (filter.fields ++ query.projection)
    exact execute_alike tellsScalars_sameButOrder parsed related capacity otherCapacity texts
      otherTexts cancelled
  · have seen : SeenAlike _ Json.SameButOrder filter (.ofPaths query.projection) :=
      seenAlike_alikeAt tellsScalars_sameButOrder
    have related := Record.alikeAt_sameButOrder (filter.fields ++ query.projection) reordered
    exact ⟨seen.holds _ _ related, seen.documents _ _ related⟩

/-- A store that has only one record. -/
def Store.single (record : Record) : Store where
  ids := .ok [0]
  fetch := fun _ => { cancels := false, fetched := .record record }

/-- Stores with one record each are alike if the records are related. -/
theorem Store.alike_single {related : Record → Record → Prop} {record other : Record}
    (same : related record other) : Store.Alike related (single record) (single other) where
  ids := rfl
  cancels := fun _ _ _ _ => rfl
  fetched := fun _ _ _ _ => .record same

/-- A record whose value under `a` is an object. -/
def nestedRecord : Record where
  members := [("a", .object [("b", .null), ("c", .bool true)]), ("x", .null)]
  distinct := by simp [Json.Distinct, Json.DistinctMembers, Json.Members.keys]

/-- The nested record with the keys of both its objects in another order. -/
def turnedRecord : Record where
  members := [("x", .null), ("a", .object [("c", .bool true), ("b", .null)])]
  distinct := by simp [Json.Distinct, Json.DistinctMembers, Json.Members.keys]

/-- The nested record with one more key. -/
def widerRecord : Record where
  members := [("a", .object [("b", .null), ("c", .bool true)]), ("x", .null), ("y", .null)]
  distinct := by simp [Json.Distinct, Json.DistinctMembers, Json.Members.keys]

/-- A query that names neither the order of keys nor the key `y` does not tell the records apart. -/
theorem Executor.execute_named_paths_nested :
    let query : Query := ⟨["a", "a.b"], (Filter.isNull "x").text⟩
    let scan := fun record => ((fresh (.single record) none).execute query false).1
    Filter.parse query.filters = .ok (Filter.isNull "x") ∧
      nestedRecord.json.SameButOrder turnedRecord.json ∧
      scan nestedRecord = scan widerRecord ∧
      Scan.Alike Json.SameButOrder (scan nestedRecord) (scan turnedRecord) := by
  intro query scan
  have field : Filter.IsField "x" := Filter.isField_letter rfl (by decide) (by decide)
  have parsed : Filter.parse query.filters = .ok (Filter.isNull "x") :=
    Filter.parse_text_of_fits (.comparison field) (by decide)
  have agree : ∀ path ∈ (Filter.isNull "x").fields ++ query.projection,
      nestedRecord.get? path = widerRecord.get? path := by
    intro path isNamed
    have named : path ∈ ["x", "a", "a.b"] := isNamed
    rw [List.mem_cons, List.mem_cons, List.mem_singleton] at named
    rcases named with rfl | rfl | rfl <;> rfl
  have turned : nestedRecord.json.SameButOrder turnedRecord.json :=
    .tail (.single (.here (.swap _ _ _))) (.member [_] [] "a" (.here (.swap _ _ _)))
  refine ⟨parsed, turned, ?_, ?_⟩
  · exact (execute_named_paths parsed (.single nestedRecord) (.single widerRecord) none none [] []
      false).1 (Store.alike_single agree)
  · exact (execute_named_paths parsed (.single nestedRecord) (.single turnedRecord) none none [] []
      false).2.1 (Store.alike_single turned)

end Queries

end RecordSearch
