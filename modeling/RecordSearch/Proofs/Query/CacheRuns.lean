import RecordSearch.Proofs.Query.Cache

/-!
# Runs of look-ups

A cache that was empty is told by the texts that it missed: those that could be held and were not
held when they were looked up. It holds the last of them, as many as came since it was cleared last,
and `lastGroup` says how many these are. `Follows` relates a cache to the texts missed; one look-up
keeps the relation, so every run of look-ups does.
-/

namespace RecordSearch.FilterCache

/-- The cache after look-ups of some texts. -/
def afterTexts (cache : FilterCache) : List String → FilterCache
  | [] => cache
  | text :: texts => (cache.getOrParse text).2.afterTexts texts

/-- What look-ups of some texts answer. -/
def answers (cache : FilterCache) : List String → List ParsedText
  | [] => []
  | text :: texts => (cache.getOrParse text).1 :: (cache.getOrParse text).2.answers texts

/-- Whether the text could be held and is not. -/
def misses (cache : FilterCache) (text : String) : Bool :=
  cache.canHold text && (cache.held? text).isNone

/-- The texts missed by look-ups of some texts, in order. -/
def missed (cache : FilterCache) : List String → List String
  | [] => []
  | text :: texts =>
    (if cache.misses text then [text] else []) ++ (cache.getOrParse text).2.missed texts

/-- How many of some texts cannot be held. -/
def bypassed (cache : FilterCache) (texts : List String) : Nat :=
  texts.countP fun text => !cache.canHold text

/-- Whether look-ups of some texts clear the cache: one of them misses its text while as many texts
are held as can be. -/
def clearedBy (cache : FilterCache) : List String → Bool
  | [] => false
  | text :: texts =>
    (cache.misses text && decide (cache.capacity ≤ cache.size)) ||
      (cache.getOrParse text).2.clearedBy texts

/-- How many texts are held after so many were missed: none at first, then from one to the capacity,
and then from one again. -/
def groupSize (capacity misses : Nat) : Nat :=
  if misses = 0 then 0 else (misses - 1) % capacity + 1

/-- The last texts missed, those since the cache was cleared. -/
def lastGroup (capacity : Nat) (missed : List String) : List String :=
  missed.drop (missed.length - groupSize capacity missed.length)

section Groups

variable {capacity : Nat}

/-- No more texts are held than were missed. -/
theorem groupSize_le (misses : Nat) : groupSize capacity misses ≤ misses := by
  unfold groupSize
  split
  · omega
  · have remainder : (misses - 1) % capacity ≤ misses - 1 := Nat.mod_le _ _
    omega

/-- No more texts are held than the capacity allows. -/
theorem groupSize_le_capacity (positive : 0 < capacity) (misses : Nat) :
    groupSize capacity misses ≤ capacity := by
  unfold groupSize
  split
  · omega
  · have remainder : (misses - 1) % capacity < capacity := Nat.mod_lt _ positive
    omega

/-- One more text is held, or it is the only one where the cache was full. -/
theorem groupSize_succ (positive : 0 < capacity) (misses : Nat) :
    groupSize capacity (misses + 1) =
      (if capacity ≤ groupSize capacity misses then 0 else groupSize capacity misses) + 1 := by
  cases misses with
  | zero =>
    have none : ¬capacity ≤ groupSize capacity 0 := by
      unfold groupSize
      simp
      omega
    rw [if_neg none]
    simp [groupSize]
  | succ earlier =>
    have remainder : earlier % capacity < capacity := Nat.mod_lt _ positive
    have size : groupSize capacity (earlier + 1) = earlier % capacity + 1 := by simp [groupSize]
    have next : groupSize capacity (earlier + 1 + 1) = (earlier % capacity + 1) % capacity + 1 := by
      rw [Nat.mod_add_mod]
      simp [groupSize]
    rw [next, size]
    by_cases full : earlier % capacity + 1 = capacity
    · rw [if_pos (Nat.le_of_eq full.symm), full, Nat.mod_self]
    · rw [if_neg (by omega), Nat.mod_eq_of_lt (by omega)]

/-- As many texts are in the last group as it says. -/
theorem length_lastGroup (missed : List String) :
    (lastGroup capacity missed).length = groupSize capacity missed.length := by
  have fewer : groupSize capacity missed.length ≤ missed.length := groupSize_le _
  unfold lastGroup
  rw [List.length_drop]
  omega

/-- One more text joins the last group, or starts one where the group is full. -/
theorem lastGroup_append (positive : 0 < capacity) (missed : List String) (text : String) :
    lastGroup capacity (missed ++ [text]) =
      (if capacity ≤ (lastGroup capacity missed).length then [] else lastGroup capacity missed) ++
        [text] := by
  have fewer : groupSize capacity missed.length ≤ missed.length := groupSize_le _
  have length : (missed ++ [text]).length = missed.length + 1 := by simp
  have next := groupSize_succ positive missed.length
  rw [length_lastGroup]
  unfold lastGroup
  rw [length, next]
  split
  · have past : missed.length + 1 - (0 + 1) = missed.length := by omega
    rw [past, List.drop_left, List.nil_append]
  · have before : missed.length + 1 - (groupSize capacity missed.length + 1) =
        missed.length - groupSize capacity missed.length := by omega
    rw [before, List.drop_append_of_le_length (by omega)]

end Groups

/-- The cache after its look-ups missed some texts and went past it a number of times. -/
structure Follows (capacity : Nat) (missed : List String) (past : Nat) (cache : FilterCache) :
    Prop where
  sameCapacity : cache.capacity = capacity
  holdable : ∀ text ∈ missed, cache.canHold text = true
  held : cache.held = (lastGroup capacity missed).map fun text => (text, Filter.parse text)
  distinct : (lastGroup capacity missed).Nodup
  parses : cache.parses = missed.length + past

section LookUps

variable {cache : FilterCache} {text : String}

/-- A text that cannot be held is parsed. -/
theorem getOrParse_bypass (notHoldable : cache.canHold text = false) :
    cache.getOrParse text = (Filter.parse text, { cache with parses := cache.parses + 1 }) := by
  unfold getOrParse
  rw [if_neg (by simp [notHoldable])]

/-- A text that is held is not parsed. -/
theorem getOrParse_held {parsed : ParsedText} (holdable : cache.canHold text = true)
    (found : cache.held? text = some parsed) : cache.getOrParse text = (parsed, cache) := by
  unfold getOrParse
  rw [if_pos holdable, found]

/-- A text that is missed is parsed and held. -/
theorem getOrParse_missed (holdable : cache.canHold text = true)
    (absent : cache.held? text = none) :
    cache.getOrParse text = (Filter.parse text, cache.hold text (Filter.parse text)) := by
  unfold getOrParse
  rw [if_pos holdable, absent]

/-- Look-ups keep the capacity. -/
theorem capacity_getOrParse (cache : FilterCache) (text : String) :
    (cache.getOrParse text).2.capacity = cache.capacity := by
  cases holdable : cache.canHold text with
  | false => rw [getOrParse_bypass holdable]
  | true =>
    cases found : cache.held? text with
    | some parsed => rw [getOrParse_held holdable found]
    | none =>
      rw [getOrParse_missed holdable found]
      rfl

/-- Look-ups change nothing of which texts can be held. -/
theorem canHold_of_capacity {other : FilterCache} (same : other.capacity = cache.capacity)
    (text : String) : other.canHold text = cache.canHold text := by
  unfold canHold
  rw [same]

/-- A text stays held unless the cache is cleared. -/
theorem held?_getOrParse {other : String} {parsed : ParsedText}
    (isHeld : cache.held? text = some parsed)
    (kept : (cache.misses other && decide (cache.capacity ≤ cache.size)) = false) :
    (cache.getOrParse other).2.held? text = some parsed := by
  cases holdable : cache.canHold other with
  | false =>
    rw [getOrParse_bypass holdable]
    exact isHeld
  | true =>
    cases found : cache.held? other with
    | some parsedOther =>
      rw [getOrParse_held holdable found]
      exact isHeld
    | none =>
      have room : ¬cache.capacity ≤ cache.size := by
        simpa [misses, holdable, found] using kept
      rw [getOrParse_missed holdable found]
      unfold held? at isHeld
      unfold hold held?
      rw [if_neg room, List.lookup_append, isHeld]
      rfl

/-- A text stays held for as long as the cache is not cleared. -/
theorem held?_afterTexts {parsed : ParsedText} {more : List String}
    (isHeld : cache.held? text = some parsed) (kept : cache.clearedBy more = false) :
    (cache.afterTexts more).held? text = some parsed := by
  induction more generalizing cache with
  | nil => exact isHeld
  | cons other more ih =>
    obtain ⟨keptFirst, keptLater⟩ := Bool.or_eq_false_iff.1 kept
    exact ih (held?_getOrParse isHeld keptFirst) keptLater

end LookUps

section Steps

variable {capacity past : Nat} {before : List String} {cache : FilterCache}

/-- The empty cache missed nothing. -/
theorem follows_empty (capacity : Nat) : Follows capacity [] 0 (empty capacity) where
  sameCapacity := rfl
  holdable := by simp
  held := rfl
  distinct := List.nodup_nil
  parses := rfl

variable (follows : Follows capacity before past cache)

include follows

/-- The texts held are those of the last group. -/
theorem Follows.size_eq : cache.size = (lastGroup capacity before).length := by
  unfold size
  rw [follows.held, List.length_map]

/-- A cache that can hold a text has a capacity. -/
theorem Follows.capacity_pos {text : String} (holdable : cache.canHold text = true) :
    0 < capacity := by
  have some : cache.capacity ≠ 0 := by
    simp only [canHold, Bool.and_eq_true, bne_iff_ne] at holdable
    exact holdable.1
  rw [← follows.sameCapacity]
  omega

/-- No more texts are held than the capacity allows. -/
theorem Follows.size_le : cache.size ≤ capacity := by
  rw [follows.size_eq, length_lastGroup]
  cases before with
  | nil => exact Nat.zero_le _
  | cons text more =>
    have holdable : cache.canHold text = true := follows.holdable text List.mem_cons_self
    exact groupSize_le_capacity (follows.capacity_pos holdable) _

/-- A text of the last group is found with what it parses to. -/
theorem Follows.held?_of_mem {text : String} (isHeld : text ∈ lastGroup capacity before) :
    cache.held? text = some (Filter.parse text) := by
  unfold held?
  rw [follows.held]
  generalize lastGroup capacity before = group at isHeld
  induction group with
  | nil => cases isHeld
  | cons first group ih =>
    rw [List.map_cons, List.lookup_cons]
    by_cases same : text = first
    · simp [same]
    · have different : (text == first) = false := by simpa using same
      rw [different]
      exact ih ((List.mem_cons.1 isHeld).resolve_left same)

/-- Nothing else is found. -/
theorem Follows.held?_eq_none_iff {text : String} :
    cache.held? text = none ↔ text ∉ lastGroup capacity before := by
  constructor
  · intro absent isHeld
    rw [follows.held?_of_mem isHeld] at absent
    cases absent
  · intro notHeld
    unfold held?
    rw [follows.held, List.lookup_eq_none_iff]
    intro member isMember
    obtain ⟨other, isHeld, rfl⟩ := List.mem_map.1 isMember
    have different : text ≠ other := fun same => notHeld (same ▸ isHeld)
    simpa using different

/-- A text that was missed is held from then on, after a clearing where the cache was full. -/
theorem Follows.hold {text : String} (holdable : cache.canHold text = true)
    (absent : cache.held? text = none) :
    Follows capacity (before ++ [text]) past (cache.hold text (Filter.parse text)) := by
  have notHeld : text ∉ lastGroup capacity before := follows.held?_eq_none_iff.1 absent
  have group := lastGroup_append (follows.capacity_pos holdable) before text
  refine ⟨follows.sameCapacity, ?holdable, ?held, ?distinct, ?parses⟩
  case holdable =>
    intro other isMissed
    rcases List.mem_append.1 isMissed with isBefore | isNew
    · exact follows.holdable other isBefore
    · rw [List.mem_singleton.1 isNew]
      exact holdable
  case held =>
    have kept : (if cache.capacity ≤ cache.size then [] else cache.held) =
        (if capacity ≤ (lastGroup capacity before).length then []
          else lastGroup capacity before).map fun text => (text, Filter.parse text) := by
      rw [follows.sameCapacity, follows.size_eq, follows.held]
      split <;> rfl
    rw [group, List.map_append, ← kept]
    rfl
  case distinct =>
    rw [group]
    split
    · simp
    · have alone : ∀ other ∈ lastGroup capacity before, ∀ new ∈ [text], other ≠ new := by
        intro other isHeld new isNew same
        rw [same, List.mem_singleton.1 isNew] at isHeld
        exact notHeld isHeld
      exact List.nodup_append.2 ⟨follows.distinct, by simp, alone⟩
  case parses =>
    have counted : (cache.hold text (Filter.parse text)).parses = cache.parses + 1 := rfl
    rw [counted, follows.parses, List.length_append, List.length_singleton]
    omega

/-- A look-up that misses the text adds it to the texts missed, and any other look-up leaves them; a
text that cannot be held goes past the cache. -/
theorem Follows.getOrParse (text : String) :
    Follows capacity (before ++ if cache.misses text then [text] else [])
      (past + if cache.canHold text then 0 else 1) (cache.getOrParse text).2 := by
  unfold misses
  cases holdable : cache.canHold text with
  | false =>
    have counted : cache.parses + 1 = before.length + (past + 1) := by
      rw [follows.parses, Nat.add_assoc]
    rw [getOrParse_bypass holdable]
    simp only [Bool.false_and, Bool.false_eq_true, if_false, List.append_nil]
    exact { follows with parses := counted }
  | true =>
    cases found : cache.held? text with
    | some parsed =>
      rw [getOrParse_held holdable found]
      simpa using follows
    | none =>
      rw [getOrParse_missed holdable found]
      exact follows.hold holdable found

/-- Look-ups of some texts add those that they miss and those that go past the cache. -/
theorem Follows.afterTexts (texts : List String) :
    Follows capacity (before ++ cache.missed texts) (past + cache.bypassed texts)
      (cache.afterTexts texts) := by
  induction texts generalizing before past cache with
  | nil => simpa [missed, bypassed, FilterCache.afterTexts] using follows
  | cons text texts ih =>
    have later := ih (follows.getOrParse text)
    have sameTexts : (cache.getOrParse text).2.bypassed texts = cache.bypassed texts := by
      unfold bypassed
      simp only [canHold_of_capacity (capacity_getOrParse cache text)]
    have count : cache.bypassed (text :: texts) =
        (if cache.canHold text then 0 else 1) + cache.bypassed texts := by
      unfold bypassed
      rw [List.countP_cons, Nat.add_comm]
      cases cache.canHold text <;> rfl
    rw [List.append_assoc, Nat.add_assoc, sameTexts, ← count] at later
    exact later

end Steps

/-- A sound cache answers what the texts parse to. -/
theorem answers_of_sound {cache : FilterCache} (sound : cache.Sound) (texts : List String) :
    cache.answers texts = texts.map Filter.parse := by
  induction texts generalizing cache with
  | nil => rfl
  | cons text texts ih =>
    rw [answers, getOrParse_fst sound, ih (sound_getOrParse sound text), List.map_cons]

/-- A text that is held is looked up without parsing it and without any change for as long as the
cache is not cleared. -/
theorem Follows.getOrParse_of_held {capacity past : Nat} {before : List String}
    {cache : FilterCache} (follows : Follows capacity before past cache) {more : List String}
    (kept : cache.clearedBy more = false) {text : String} (isHeld : cache.held? text ≠ none) :
    (cache.afterTexts more).getOrParse text = (Filter.parse text, cache.afterTexts more) := by
  have inGroup : text ∈ lastGroup capacity before :=
    Decidable.not_not.1 (mt follows.held?_eq_none_iff.2 isHeld)
  have stillHeld := held?_afterTexts (follows.held?_of_mem inGroup) kept
  have sameCapacity : (cache.afterTexts more).capacity = cache.capacity :=
    (follows.afterTexts more).sameCapacity.trans follows.sameCapacity.symm
  have holdable : (cache.afterTexts more).canHold text = true := by
    rw [canHold_of_capacity sameCapacity]
    exact follows.holdable text (List.mem_of_mem_drop inGroup)
  exact getOrParse_held holdable stillHeld

/-- After any run of look-ups on a new cache: the answers are what the texts parse to; the texts
held are short enough, held with what they parse to, and no more than the capacity; they are the
last texts missed, as many as came since the last clearing, each of them once; every text missed was
parsed once, and every text that cannot be held each time; and a text that is held is not parsed
again before the cache is cleared. -/
theorem empty_afterTexts (capacity : Nat) (texts : List String) :
    let cache := (empty capacity).afterTexts texts
    let missed := (empty capacity).missed texts
    (empty capacity).answers texts = texts.map Filter.parse ∧
      (∀ text parsed, (text, parsed) ∈ cache.held →
        text.utf8ByteSize ≤ maxHeldBytes ∧ parsed = Filter.parse text) ∧
      cache.size ≤ capacity ∧
      cache.size = (if missed.length = 0 then 0 else (missed.length - 1) % capacity + 1) ∧
      cache.held.map Prod.fst = missed.drop (missed.length - cache.size) ∧
      (cache.held.map Prod.fst).Nodup ∧
      cache.parses = missed.length + (empty capacity).bypassed texts ∧
      ∀ more, cache.clearedBy more = false → ∀ text, cache.held? text ≠ none →
        (cache.afterTexts more).getOrParse text = (Filter.parse text, cache.afterTexts more) := by
  intro cache missed
  have follows : Follows capacity missed ((empty capacity).bypassed texts) cache := by
    have run := (follows_empty capacity).afterTexts texts
    rwa [List.nil_append, Nat.zero_add] at run
  have size : cache.size = groupSize capacity missed.length := by
    rw [follows.size_eq, length_lastGroup]
  have heldTexts : cache.held.map Prod.fst = lastGroup capacity missed := by
    rw [follows.held, List.map_map]
    exact List.map_id _
  refine ⟨answers_of_sound (sound_empty capacity) texts, ?entries, follows.size_le, size, ?last,
    ?distinct, follows.parses, ?parsedOnce⟩
  case entries =>
    intro text parsed isHeld
    rw [follows.held] at isHeld
    obtain ⟨other, inGroup, same⟩ := List.mem_map.1 isHeld
    cases same
    have holdable := follows.holdable text (List.mem_of_mem_drop inGroup)
    simp only [canHold, Bool.and_eq_true, decide_eq_true_eq] at holdable
    exact ⟨holdable.2, rfl⟩
  case last =>
    rw [heldTexts, size]
    rfl
  case distinct =>
    rw [heldTexts]
    exact follows.distinct
  case parsedOnce =>
    intro more kept text isHeld
    exact follows.getOrParse_of_held kept isHeld

/-- A cache for two texts is cleared by the third one, which is then held. -/
theorem empty_afterTexts_cleared :
    let cache := (empty 2).afterTexts ["a", "b", "a", "("]
    (cache.held.map Prod.fst = ["("] ∧ cache.parses = 3) ∧
      cache.clearedBy ["a"] = false ∧ cache.held? "(" ≠ none ∧
        (cache.afterTexts ["a"]).getOrParse "(" =
          (Filter.parse "(", cache.afterTexts ["a"]) := by
  intro cache
  obtain ⟨-, -, -, size, held, -, parses, parsedOnce⟩ := empty_afterTexts 2 ["a", "b", "a", "("]
  have missed : (empty 2).missed ["a", "b", "a", "("] = ["a", "b", "("] := by decide
  have bypassed : (empty 2).bypassed ["a", "b", "a", "("] = 0 := by decide
  rw [missed] at size held parses
  rw [bypassed] at parses
  rw [size] at held
  have kept : cache.clearedBy ["a"] = false := by decide
  have isHeld : cache.held? "(" ≠ none := by decide
  exact ⟨⟨held, parses⟩, kept, isHeld, parsedOnce ["a"] kept "(" isHeld⟩

end RecordSearch.FilterCache
