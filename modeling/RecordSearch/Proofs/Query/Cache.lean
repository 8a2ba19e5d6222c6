import RecordSearch.Query.Execution

/-!
# What a cache answers

A cache is sound if every text that it holds is held with what it parses to. The empty cache is
sound and every look-up keeps it so, also one that clears the cache or goes past it, so a look-up
answers what parsing the text gives. An executor with such a cache, or without one, parses as the
parser does.
-/

namespace RecordSearch

namespace FilterCache

/-- Every text held is held with what it parses to. -/
def Sound (cache : FilterCache) : Prop :=
  ∀ text parsed, (text, parsed) ∈ cache.held → parsed = Filter.parse text

/-- A cache that holds nothing is sound. -/
theorem sound_empty (capacity : Nat) : (empty capacity).Sound := by
  intro text parsed isHeld
  cases isHeld

section Sound

variable {cache : FilterCache} (sound : cache.Sound)

include sound

/-- A sound cache finds what the text parses to. -/
theorem eq_parse_of_held? {text : String} {parsed : ParsedText}
    (found : cache.held? text = some parsed) : parsed = Filter.parse text := by
  obtain ⟨before, after, split, -⟩ := List.lookup_eq_some_iff.1 found
  apply sound
  rw [split]
  simp

/-- Holding what a text parses to keeps a cache sound, whether or not it is cleared first. -/
theorem sound_hold (text : String) : (cache.hold text (Filter.parse text)).Sound := by
  intro other parsed isHeld
  rcases List.mem_append.1 isHeld with before | new
  · split at before
    · cases before
    · exact sound other parsed before
  · cases List.mem_singleton.1 new
    rfl

/-- A look-up answers what the text parses to. -/
theorem getOrParse_fst (text : String) : (cache.getOrParse text).1 = Filter.parse text := by
  unfold getOrParse
  split
  · cases found : cache.held? text with
    | some parsed => exact eq_parse_of_held? sound found
    | none => rfl
  · rfl

/-- A look-up keeps a cache sound. -/
theorem sound_getOrParse (text : String) : (cache.getOrParse text).2.Sound := by
  unfold getOrParse
  split
  · cases cache.held? text with
    | some parsed => exact sound
    | none => exact sound_hold sound text
  · exact sound

end Sound

end FilterCache

namespace Executor

/-- The cache of the executor, if it has one, is sound. -/
def Sound (executor : Executor) : Prop := ∀ cache ∈ executor.cache, cache.Sound

/-- An executor that parsed nothing yet, with a cache of a capacity or without one. -/
def fresh (store : Store) (capacity : Option Nat) : Executor :=
  ⟨store, capacity.map FilterCache.empty⟩

/-- The executor after it parsed some texts. -/
def afterTexts (executor : Executor) (texts : List String) : Executor :=
  texts.foldl (fun executor text => (executor.parse text).2) executor

/-- An executor that parsed nothing yet is sound. -/
theorem sound_fresh (store : Store) (capacity : Option Nat) : (fresh store capacity).Sound := by
  intro cache isCache
  obtain ⟨size, -, rfl⟩ := Option.map_eq_some_iff.1 isCache
  exact FilterCache.sound_empty size

/-- Parsing keeps the store. -/
theorem store_parse (executor : Executor) (text : String) :
    (executor.parse text).2.store = executor.store := by
  unfold parse
  cases executor.cache <;> rfl

/-- A query keeps the store. -/
theorem store_execute (executor : Executor) (query : Query) (cancelled : Bool) :
    (executor.execute query cancelled).2.store = executor.store :=
  store_parse executor query.filters

section Sound

variable {executor : Executor} (sound : executor.Sound)

include sound

/-- A sound executor parses as the parser does. -/
theorem parse_fst (text : String) : (executor.parse text).1 = Filter.parse text := by
  unfold parse
  cases isCache : executor.cache with
  | none => rfl
  | some cache => exact FilterCache.getOrParse_fst (sound cache isCache) text

/-- Parsing keeps an executor sound. -/
theorem sound_parse (text : String) : (executor.parse text).2.Sound := by
  unfold parse
  cases isCache : executor.cache with
  | none => exact sound
  | some cache =>
    rintro _ ⟨⟩
    exact FilterCache.sound_getOrParse (sound cache isCache) text

/-- An executor stays sound and keeps its store, whatever it parses. -/
theorem sound_afterTexts (texts : List String) :
    (executor.afterTexts texts).Sound ∧ (executor.afterTexts texts).store = executor.store := by
  induction texts generalizing executor with
  | nil => exact ⟨sound, rfl⟩
  | cons text texts ih =>
    obtain ⟨soundLater, sameStore⟩ := ih (sound_parse sound text)
    exact ⟨soundLater, sameStore.trans (store_parse executor text)⟩

/-- A query keeps an executor sound. -/
theorem sound_execute (query : Query) (cancelled : Bool) :
    (executor.execute query cancelled).2.Sound :=
  sound_parse sound query.filters

/-- A sound executor scans its store with what the filter text parses to. -/
theorem execute_fst (query : Query) (cancelled : Bool) :
    (executor.execute query cancelled).1 =
      Scan.ofParsed executor.store query cancelled (Filter.parse query.filters) := by
  have scanned : (executor.execute query cancelled).1 =
      Scan.ofParsed (executor.parse query.filters).2.store query cancelled
        (executor.parse query.filters).1 := rfl
  rw [scanned, store_parse, parse_fst sound]

end Sound

end Executor

end RecordSearch
