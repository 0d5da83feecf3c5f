import LotusAdvise.Foundations.RecencyDicts
import Mathlib.Data.Rat.Floor

/-! # The timed cache

What is read from Lotus Core is kept for a while, under at most a given number of keys. An entry
that has expired stays where it is until its key is read, or until it is the oldest.
-/

namespace LotusAdvise.LotusCore

structure TimedCacheStats where
  hits : ℕ
  misses : ℕ
  expirations : ℕ
  writes : ℕ
  evictions : ℕ
  size : ℕ

/-- What a cache is created with. -/
structure TimedCacheSettings (V : Type*) where
  cloneValue : V → V
  ttlSeconds : ℚ
  maxSize : ℕ

/-- A value is stored with the time at which it expires. -/
structure TimedCache (K V : Type*) where
  values : Dict K (ℚ × V) := []
  hits : ℕ := 0
  misses : ℕ := 0
  expirations : ℕ := 0
  writes : ℕ := 0
  evictions : ℕ := 0

inductive CacheOperation (K V : Type*) where
  | get (key : K)
  | set (key : K) (value : V)
  | clear

namespace TimedCache

variable {K V : Type*} [DecidableEq K] (settings : TimedCacheSettings V) (cache : TimedCache K V)

def get (now : ℚ) (key : K) : TimedCache K V × Option V :=
  match Dict.get? cache.values key with
  | none => ({ cache with misses := cache.misses + 1 }, none)
  | some cachedEntry =>
    if cachedEntry.1 ≤ now then
      ({ cache with
          values := Dict.pop cache.values key
          misses := cache.misses + 1
          expirations := cache.expirations + 1 }, none)
    else
      ({ cache with
          values := Dict.moveToEnd cache.values key
          hits := cache.hits + 1 }, some (settings.cloneValue cachedEntry.2))

/-- The values with a new one at the end, before any is evicted. -/
def written (now : ℚ) (key : K) (value : V) : Dict K (ℚ × V) :=
  Dict.moveToEnd
    (Dict.set cache.values key (now + settings.ttlSeconds, settings.cloneValue value)) key

def set (now : ℚ) (key : K) (value : V) : TimedCache K V × V :=
  ({ cache with
      values :=
        (Dict.evictOldest settings.maxSize (cache.written settings now key value)
          cache.evictions).1
      writes := cache.writes + 1
      evictions :=
        (Dict.evictOldest settings.maxSize (cache.written settings now key value)
          cache.evictions).2 },
    settings.cloneValue value)

def clear : TimedCache K V := {}

def stats : TimedCacheStats where
  hits := cache.hits
  misses := cache.misses
  expirations := cache.expirations
  writes := cache.writes
  evictions := cache.evictions
  size := cache.values.length

/-- An operation, and the value that it returns. -/
def perform (now : ℚ) : CacheOperation K V → TimedCache K V × Option V
  | .get key => cache.get settings now key
  | .set key value =>
    ((cache.set settings now key value).1, some (cache.set settings now key value).2)
  | .clear => (clear, none)

end TimedCache

end LotusAdvise.LotusCore
