import RecordSearch.Filter.Parser

/-!
# The filter cache

Parsed filters by their exact text, syntax errors included. A full cache is cleared before the next
text is held, and long texts are parsed every time.
-/

namespace RecordSearch

open RecordSearch.Filter (SyntaxError)

/-- `Parsed` — what parsing a text gives. -/
abbrev ParsedText := Except SyntaxError Filter

/-- `MAX_CACHED_TEXT_LEN` — the most UTF-8 bytes of a text that is held. -/
def maxHeldBytes : Nat := 4096

/-- `FilterCache` — a cache of parsed filters. -/
structure FilterCache where
  /-- How many texts can be held. -/
  capacity : Nat
  /-- The texts held with what they parse to, in the order in which they came. -/
  held : List (String × ParsedText)
  /-- How many times a text was parsed. -/
  parses : Nat

namespace FilterCache

/-- `FilterCache::new` — a cache that holds nothing yet. -/
def empty (capacity : Nat) : FilterCache := ⟨capacity, [], 0⟩

/-- `FilterCache::len` — the number of texts held. -/
def size (cache : FilterCache) : Nat := cache.held.length

/-- What a held text parses to. -/
def held? (cache : FilterCache) (text : String) : Option ParsedText := cache.held.lookup text

/-- Whether a text can be held. -/
def canHold (cache : FilterCache) (text : String) : Bool :=
  cache.capacity != 0 && text.utf8ByteSize ≤ maxHeldBytes

/-- The cache after it parsed a text that it does not hold. -/
def hold (cache : FilterCache) (text : String) (parsed : ParsedText) : FilterCache where
  capacity := cache.capacity
  held := (if cache.capacity ≤ cache.size then [] else cache.held) ++ [(text, parsed)]
  parses := cache.parses + 1

/-- `FilterCache::get_or_parse` — what a text parses to, taken from the cache where it is held, and
the cache after that. -/
def getOrParse (cache : FilterCache) (text : String) : ParsedText × FilterCache :=
  if cache.canHold text then
    match cache.held? text with
    | some parsed => (parsed, cache)
    | none =>
      let parsed := Filter.parse text
      (parsed, cache.hold text parsed)
  else (Filter.parse text, { cache with parses := cache.parses + 1 })

end FilterCache

end RecordSearch
