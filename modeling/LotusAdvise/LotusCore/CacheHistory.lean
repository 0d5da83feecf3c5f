import LotusAdvise.LotusCore.TimedCache
import Mathlib.Tactic.Linarith

/-! # The timed cache follows its history

The history of a cache is the list of the calls that were served, the newest first. It says which
value a key was last set to, and which other keys were set or successfully read since the key was.
This determines what is read, as long as the keys are not too many.
-/

namespace LotusAdvise.LotusCore

/-- A call that was served. It is recorded whether its key was in the cache before it. -/
structure CacheCall (K V : Type*) where
  time : ℚ
  operation : CacheOperation K V
  held : Bool
  returned : Option V

namespace CacheCall

variable {K V : Type*} (call : CacheCall K V)

def isClear : Bool :=
  match call.operation with
  | .clear => true
  | _ => false

def isGet : Bool :=
  match call.operation with
  | .get _ => true
  | _ => false

def overwrites : Bool :=
  match call.operation with
  | .set _ _ => call.held
  | _ => false

/-- The key that is set or successfully read. -/
def usedKey : Option K :=
  match call.operation, call.returned with
  | .set key _, _ => some key
  | .get key, some _ => some key
  | _, _ => none

/-- The time and the value, if the key is set. -/
def setting [DecidableEq K] (key : K) : Option (ℚ × V) :=
  match call.operation with
  | .set key' value => if key' = key then some (call.time, value) else none
  | _ => none

end CacheCall

section History

variable {K V : Type*} (history : List (CacheCall K V))

def sinceClear : List (CacheCall K V) := history.takeWhile fun call => !call.isClear

def latestSet [DecidableEq K] (key : K) : Option (ℚ × V) :=
  (sinceClear history).findSome? (CacheCall.setting · key)

/-- The keys that were used since this one was. -/
def usedSince [DecidableEq K] (key : K) : List K :=
  ((sinceClear history).filterMap CacheCall.usedKey).takeWhile fun key' => key' ≠ key

end History

section Runs

variable {K V : Type*} [DecidableEq K] (settings : TimedCacheSettings V)

def TimedCache.holds (cache : TimedCache K V) : CacheOperation K V → Bool
  | .get key => key ∈ cache.values.map Prod.fst
  | .set key _ => key ∈ cache.values.map Prod.fst
  | .clear => false

/-- Serve an operation at a time. -/
def serve (state : TimedCache K V × List (CacheCall K V)) (request : ℚ × CacheOperation K V) :
    TimedCache K V × List (CacheCall K V) :=
  ((state.1.perform settings request.1 request.2).1,
    { time := request.1
      operation := request.2
      held := state.1.holds request.2
      returned := (state.1.perform settings request.1 request.2).2 } :: state.2)

def serveAll (requests : List (ℚ × CacheOperation K V)) : TimedCache K V × List (CacheCall K V) :=
  requests.foldl (serve settings) ({}, [])

/-- No request comes before an earlier one. -/
def InOrder (requests : List (ℚ × CacheOperation K V)) : Prop :=
  requests.Pairwise fun earlier later => earlier.1 ≤ later.1

/-- A cache after a history, at a time at which it may be read next. The latest value of a key is
returned as a copy of the copy that was stored. -/
structure FollowsHistory (now : ℚ) (cache : TimedCache K V) (history : List (CacheCall K V)) :
    Prop where
  latest : ∀ key returned, (cache.get settings now key).2 = some returned →
    ∃ time value, latestSet history key = some (time, value) ∧ now - time < settings.ttlSeconds ∧
      returned = settings.cloneValue (settings.cloneValue value)
  retained : ∀ key time value, latestSet history key = some (time, value) →
    now - time < settings.ttlSeconds →
    (usedSince history key).toFinset.card < settings.maxSize →
    (cache.get settings now key).2 = some (settings.cloneValue (settings.cloneValue value))
  bounded : cache.stats.size ≤ settings.maxSize
  reads : cache.stats.hits + cache.stats.misses = (sinceClear history).countP CacheCall.isGet
  size : (cache.stats.size : ℤ) = cache.stats.writes -
    (sinceClear history).countP CacheCall.overwrites - cache.stats.evictions -
    cache.stats.expirations

end Runs

section Invariant

variable {K V : Type*} [DecidableEq K] {settings : TimedCacheSettings V} {cache : TimedCache K V}
  {history : List (CacheCall K V)} {call : CacheCall K V} {now later time : ℚ} {key : K} {value : V}
  {held : Bool} {returned : Option V}

/-- What is in the cache after the history, at any time that is not before it. -/
structure CacheInvariant (settings : TimedCacheSettings V) (now : ℚ) (cache : TimedCache K V)
    (history : List (CacheCall K V)) : Prop where
  nodup : (cache.values.map Prod.fst).Nodup
  recent : Dict.Recent (usedSince history) cache.values
  stored : ∀ key expiresAt stored, (key, expiresAt, stored) ∈ cache.values →
    ∃ time value, latestSet history key = some (time, value) ∧
      expiresAt = time + settings.ttlSeconds ∧ stored = settings.cloneValue value
  kept : ∀ key time value, latestSet history key = some (time, value) →
    key ∈ cache.values.map Prod.fst ∨ time + settings.ttlSeconds ≤ now ∨
      settings.maxSize ≤ (usedSince history key).toFinset.card
  bounded : cache.values.length ≤ settings.maxSize
  reads : cache.hits + cache.misses = (sinceClear history).countP CacheCall.isGet
  size : cache.values.length + (sinceClear history).countP CacheCall.overwrites +
    cache.evictions + cache.expirations = cache.writes

theorem CacheInvariant.mono (h : CacheInvariant settings now cache history) (hle : now ≤ later) :
    CacheInvariant settings later cache history where
  nodup := h.nodup
  recent := h.recent
  stored := h.stored
  kept key time value hlatest :=
    (h.kept key time value hlatest).imp_right (Or.imp_left fun hexpired => hexpired.trans hle)
  bounded := h.bounded
  reads := h.reads
  size := h.size

theorem cacheInvariant_empty (settings : TimedCacheSettings V) (now : ℚ)
    (hclear : sinceClear history = []) :
    CacheInvariant settings now (TimedCache.clear : TimedCache K V) history where
  nodup := List.nodup_nil
  recent := List.Pairwise.nil
  stored := by
    intro key expiresAt stored h
    cases h
  kept key time value h := by
    unfold latestSet at h
    rw [hclear] at h
    cases h
  bounded := Nat.zero_le _
  reads := by
    rw [hclear]
    rfl
  size := by
    rw [hclear]
    rfl

section Cons

omit [DecidableEq K] in
theorem sinceClear_cons (h : call.isClear = false) :
    sinceClear (call :: history) = call :: sinceClear history :=
  List.takeWhile_cons_of_pos (by rw [h]; rfl)

theorem latestSet_cons (h : call.isClear = false) :
    latestSet (call :: history) key = (call.setting key).or (latestSet history key) := by
  unfold latestSet
  rw [sinceClear_cons h, List.findSome?_cons]
  cases call.setting key <;> rfl

theorem usedSince_cons_of_unused (h : call.isClear = false) (hunused : call.usedKey = none) :
    usedSince (call :: history) key = usedSince history key := by
  unfold usedSince
  rw [sinceClear_cons h, List.filterMap_cons_none hunused]

theorem usedSince_cons_of_ne {key' : K} (h : call.isClear = false)
    (hused : call.usedKey = some key') (hne : key' ≠ key) :
    usedSince (call :: history) key = key' :: usedSince history key := by
  unfold usedSince
  rw [sinceClear_cons h, List.filterMap_cons_some hused]
  exact List.takeWhile_cons_of_pos (decide_eq_true hne)

/-- A key is used since at least as many others as before. -/
theorem usedSince_subset_cons (h : call.isClear = false) (hne : call.usedKey ≠ some key) :
    usedSince history key ⊆ usedSince (call :: history) key := by
  intro other hother
  cases hused : call.usedKey with
  | none =>
    rw [usedSince_cons_of_unused h hused]
    exact hother
  | some key' =>
    rw [usedSince_cons_of_ne h hused fun heq => hne (hused.trans (congrArg some heq))]
    exact List.mem_cons_of_mem _ hother

theorem card_usedSince_le_cons (h : call.isClear = false) (hne : call.usedKey ≠ some key) :
    (usedSince history key).toFinset.card ≤ (usedSince (call :: history) key).toFinset.card :=
  Finset.card_le_card fun _ hother =>
    List.mem_toFinset.mpr (usedSince_subset_cons h hne (List.mem_toFinset.mp hother))

/-- The key that is used goes to the end. -/
theorem recent_pop_concat {stored : ℚ × V} (h : call.isClear = false)
    (hused : call.usedKey = some key) (hrecent : Dict.Recent (usedSince history) cache.values) :
    Dict.Recent (usedSince (call :: history))
      (Dict.pop cache.values key ++ [(key, stored)]) := by
  refine Dict.Recent.concat (Dict.Recent.mono (List.Pairwise.sublist
    (Dict.pop_sublist cache.values key) hrecent) fun item hitem => ?_) fun item hitem => ?_
  · obtain ⟨-, hne⟩ := Dict.mem_pop.mp hitem
    refine usedSince_subset_cons h fun heq => hne ?_
    exact (Option.some.inj (hused.symm.trans heq)).symm
  · obtain ⟨-, hne⟩ := Dict.mem_pop.mp hitem
    rw [usedSince_cons_of_ne h hused hne.symm]
    exact List.mem_cons_self

end Cons

/-- Without a successful read, only entries that have expired are lost. -/
theorem CacheInvariant.miss (h : CacheInvariant settings now cache history)
    {cache' : TimedCache K V} (hcall : call.operation = .get key) (hmiss : call.returned = none)
    (hsublist : cache'.values.Sublist cache.values)
    (hlost : ∀ item ∈ cache.values, item ∈ cache'.values ∨ item.2.1 ≤ now)
    (hhits : cache'.hits = cache.hits) (hmisses : cache'.misses = cache.misses + 1)
    (hevictions : cache'.evictions = cache.evictions) (hwrites : cache'.writes = cache.writes)
    (hsize : cache'.values.length + cache'.expirations =
      cache.values.length + cache.expirations) :
    CacheInvariant settings now cache' (call :: history) := by
  have hclear : call.isClear = false := by rw [CacheCall.isClear, hcall]
  have hget : call.isGet = true := by rw [CacheCall.isGet, hcall]
  have hover : call.overwrites = false := by rw [CacheCall.overwrites, hcall]
  have hunused : call.usedKey = none := by rw [CacheCall.usedKey, hcall, hmiss]
  have hsetting : ∀ key', call.setting key' = none := by
    intro key'
    rw [CacheCall.setting, hcall]
  have hlatest : ∀ key', latestSet (call :: history) key' = latestSet history key' := by
    intro key'
    rw [latestSet_cons hclear, hsetting]
    rfl
  have hsince : usedSince (call :: history) = usedSince history :=
    funext fun key' => usedSince_cons_of_unused hclear hunused
  constructor
  · exact h.nodup.sublist (hsublist.map _)
  · rw [hsince]
    exact List.Pairwise.sublist hsublist h.recent
  · intro key' expiresAt stored hstored
    rw [hlatest]
    exact h.stored key' expiresAt stored (hsublist.subset hstored)
  · intro key' time value hset
    rw [hlatest] at hset
    rw [hsince]
    rcases h.kept key' time value hset with hheld | hlater
    · obtain ⟨item, hitem, rfl⟩ := List.mem_map.mp hheld
      rcases hlost item hitem with hstays | hexpired
      · exact .inl (List.mem_map_of_mem hstays)
      · obtain ⟨time', value', hset', hexpires, -⟩ := h.stored item.1 item.2.1 item.2.2 hitem
        obtain ⟨rfl, -⟩ := Prod.mk.inj (Option.some.inj (hset.symm.trans hset'))
        exact .inr (.inl (hexpires ▸ hexpired))
    · exact .inr hlater
  · exact (hsublist.length_le).trans h.bounded
  · rw [sinceClear_cons hclear, List.countP_cons_of_pos hget, ← h.reads]
    omega
  · have hover' : ¬ call.overwrites = true := by
      rw [hover]
      exact Bool.false_ne_true
    have hsize' := h.size
    rw [sinceClear_cons hclear, List.countP_cons_of_neg hover']
    omega

/-- What is left of the invariant when a key is used, after which its entry is the newest. -/
theorem CacheInvariant.kept_of_used (h : CacheInvariant settings now cache history)
    (hclear : call.isClear = false) (hused : call.usedKey = some key)
    {key' : K} {time : ℚ} {value : V} (hne : key' ≠ key)
    (hlatest : latestSet history key' = some (time, value)) (stored : ℚ × V) :
    key' ∈ (Dict.pop cache.values key ++ [(key, stored)]).map Prod.fst ∨
      time + settings.ttlSeconds ≤ now ∨
      settings.maxSize ≤ (usedSince (call :: history) key').toFinset.card := by
  rcases h.kept key' time value hlatest with hheld | hexpired | hmany
  · obtain ⟨item, hitem, rfl⟩ := List.mem_map.mp hheld
    exact .inl (List.mem_map_of_mem (List.mem_append_left _ (Dict.mem_pop.mpr ⟨hitem, hne⟩)))
  · exact .inr (.inl hexpired)
  · refine .inr (.inr (hmany.trans (card_usedSince_le_cons hclear fun heq => hne ?_)))
    exact Option.some.inj (heq.symm.trans hused)

/-- A successful read only moves the entry. -/
theorem CacheInvariant.hit (h : CacheInvariant settings now cache history)
    {stored : ℚ × V} (hcall : call.operation = .get key) {read : V}
    (hread : call.returned = some read) (hstored : Dict.get? cache.values key = some stored) :
    CacheInvariant settings now
      { cache with
        values := Dict.moveToEnd cache.values key
        hits := cache.hits + 1 } (call :: history) := by
  have hclear : call.isClear = false := by rw [CacheCall.isClear, hcall]
  have hget : call.isGet = true := by rw [CacheCall.isGet, hcall]
  have hover : ¬ call.overwrites = true := by
    rw [CacheCall.overwrites, hcall]
    exact Bool.false_ne_true
  have hused : call.usedKey = some key := by rw [CacheCall.usedKey, hcall, hread]
  have hmem := Dict.mem_of_get? hstored
  have hlatest : ∀ key', latestSet (call :: history) key' = latestSet history key' := by
    intro key'
    rw [latestSet_cons hclear, CacheCall.setting, hcall]
    rfl
  have hlength : (Dict.pop cache.values key ++ [(key, stored)]).length = cache.values.length := by
    have hpop := Dict.length_pop (k := key) h.nodup
    rw [if_pos (List.mem_map_of_mem hmem)] at hpop
    rw [List.length_append, List.length_singleton, hpop]
  rw [Dict.moveToEnd_of_get? hstored]
  constructor
  · exact Dict.nodup_keys_pop_concat h.nodup
  · exact recent_pop_concat hclear hused h.recent
  · intro key' expiresAt stored' hstored'
    rw [hlatest]
    rcases List.mem_append.mp hstored' with hold | hnew
    · exact h.stored key' expiresAt stored' (Dict.mem_pop.mp hold).1
    · cases List.mem_singleton.mp hnew
      exact h.stored key expiresAt stored' hmem
  · intro key' time value hset
    rw [hlatest] at hset
    by_cases hne : key' = key
    · subst hne
      exact .inl (List.mem_map_of_mem (List.mem_append_right _ (List.mem_singleton_self _)))
    · exact h.kept_of_used hclear hused hne hset _
  · exact hlength.trans_le h.bounded
  · rw [sinceClear_cons hclear, List.countP_cons_of_pos hget, ← h.reads]
    dsimp only
    omega
  · have hsize := h.size
    rw [sinceClear_cons hclear, List.countP_cons_of_neg hover]
    dsimp only
    omega

theorem CacheInvariant.set (h : CacheInvariant settings now cache history)
    (hcall : call.operation = .set key value) (htime : call.time = now)
    (hheld : call.held = cache.holds (.set key value)) :
    CacheInvariant settings now (cache.set settings now key value).1 (call :: history) := by
  have hclear : call.isClear = false := by rw [CacheCall.isClear, hcall]
  have hget : ¬ call.isGet = true := by
    rw [CacheCall.isGet, hcall]
    exact Bool.false_ne_true
  have hused : call.usedKey = some key := by rw [CacheCall.usedKey, hcall]
  have hsetting : call.setting key = some (now, value) := by
    rw [CacheCall.setting, hcall, ← htime]
    exact if_pos rfl
  have hlatest : latestSet (call :: history) key = some (now, value) := by
    rw [latestSet_cons hclear, hsetting]
    rfl
  have hlatest_of_ne : ∀ key' ≠ key,
      latestSet (call :: history) key' = latestSet history key' := by
    intro key' hne
    have hother : call.setting key' = none := by
      rw [CacheCall.setting, hcall]
      exact if_neg hne.symm
    rw [latestSet_cons hclear, hother]
    rfl
  have hwritten : cache.written settings now key value = Dict.pop cache.values key ++
      [(key, (now + settings.ttlSeconds, settings.cloneValue value))] := Dict.moveToEnd_set
  have hnodup : ((cache.written settings now key value).map Prod.fst).Nodup := by
    rw [hwritten]
    exact Dict.nodup_keys_pop_concat h.nodup
  have hrecent : Dict.Recent (usedSince (call :: history))
      (cache.written settings now key value) := by
    rw [hwritten]
    exact recent_pop_concat hclear hused h.recent
  have hsublist := Dict.evictOldest_sublist settings.maxSize
    (cache.written settings now key value) cache.evictions
  have hevicted : ∀ key' ∈ (cache.written settings now key value).map Prod.fst,
      key' ∈ (cache.set settings now key value).1.values.map Prod.fst ∨
        settings.maxSize ≤ (usedSince (call :: history) key').toFinset.card := by
    intro key' hkey'
    obtain ⟨item, hitem, rfl⟩ := List.mem_map.mp hkey'
    exact (hrecent.mem_evictOldest_or hnodup settings.maxSize cache.evictions hitem).imp_left
      List.mem_map_of_mem
  constructor
  · exact hnodup.sublist (hsublist.map _)
  · exact List.Pairwise.sublist hsublist hrecent
  · intro key' expiresAt stored hstored
    have hmem := hsublist.subset hstored
    rw [hwritten] at hmem
    rcases List.mem_append.mp hmem with hold | hnew
    · obtain ⟨hmem', hne⟩ := Dict.mem_pop.mp hold
      rw [hlatest_of_ne key' hne]
      exact h.stored key' expiresAt stored hmem'
    · cases List.mem_singleton.mp hnew
      exact ⟨now, value, hlatest, rfl, rfl⟩
  · intro key' time value' hset
    by_cases hne : key' = key
    · subst hne
      have hmem : key' ∈ (cache.written settings now key' value).map Prod.fst := by
        rw [hwritten]
        exact List.mem_map_of_mem (List.mem_append_right _ (List.mem_singleton_self _))
      exact (hevicted key' hmem).imp_right .inr
    · rw [hlatest_of_ne key' hne] at hset
      have hkept := h.kept_of_used hclear hused hne hset
        (now + settings.ttlSeconds, settings.cloneValue value)
      rw [← hwritten] at hkept
      rcases hkept with hmem | hlater
      · exact (hevicted key' hmem).imp_right .inr
      · exact .inr hlater
  · exact Dict.length_evictOldest_le _ _ _
  · rw [sinceClear_cons hclear, List.countP_cons_of_neg hget, ← h.reads]
    rfl
  · have hsize := h.size
    have hevictions := Dict.length_evictOldest_add settings.maxSize
      (cache.written settings now key value) cache.evictions
    have hpop := Dict.length_pop (k := key) h.nodup
    have hlength : (cache.written settings now key value).length =
        (Dict.pop cache.values key).length + 1 := by
      rw [hwritten, List.length_append, List.length_singleton]
    have hover : call.overwrites = decide (key ∈ cache.values.map Prod.fst) := by
      rw [CacheCall.overwrites, hcall]
      exact hheld
    have hcount : (sinceClear (call :: history)).countP CacheCall.overwrites =
        (sinceClear history).countP CacheCall.overwrites +
          (if key ∈ cache.values.map Prod.fst then 1 else 0) := by
      rw [sinceClear_cons hclear, List.countP_cons, hover]
      simp only [decide_eq_true_eq]
    rw [hcount]
    unfold TimedCache.set
    dsimp only
    omega

theorem CacheInvariant.serve (h : CacheInvariant settings now cache history)
    (operation : CacheOperation K V) :
    CacheInvariant settings now (serve settings (cache, history) (now, operation)).1
      (LotusCore.serve settings (cache, history) (now, operation)).2 := by
  cases operation with
  | get key =>
    unfold LotusCore.serve TimedCache.perform TimedCache.get
    dsimp only
    cases hstored : Dict.get? cache.values key with
    | none =>
      exact h.miss rfl rfl (List.Sublist.refl _) (fun item hitem => .inl hitem) rfl rfl rfl rfl rfl
    | some stored =>
      dsimp only
      have hmem := Dict.mem_of_get? hstored
      by_cases hexpired : stored.1 ≤ now
      · simp only [if_pos hexpired]
        have hpop := Dict.length_pop (k := key) h.nodup
        rw [if_pos (List.mem_map_of_mem hmem)] at hpop
        refine h.miss rfl rfl (Dict.pop_sublist _ _) (fun item hitem => ?_) rfl rfl rfl rfl ?_
        · by_cases hne : item.1 = key
          · have hitem' : Dict.get? cache.values item.1 = some item.2 :=
              Dict.get?_of_mem h.nodup hitem
            rw [hne, hstored] at hitem'
            exact .inr (Option.some.inj hitem' ▸ hexpired)
          · exact .inl (Dict.mem_pop.mpr ⟨hitem, hne⟩)
        · dsimp only
          omega
      · simp only [if_neg hexpired]
        exact h.hit rfl rfl hstored
  | set key value => exact h.set rfl rfl rfl
  | clear => exact cacheInvariant_empty settings now rfl

theorem cacheInvariant_serveAll {requests : List (ℚ × CacheOperation K V)}
    (horder : InOrder requests) (hnow : ∀ request ∈ requests, request.1 ≤ now) :
    CacheInvariant settings now (serveAll settings requests).1 (serveAll settings requests).2 := by
  induction requests using List.reverseRecOn generalizing now with
  | nil => exact cacheInvariant_empty settings now rfl
  | append_singleton requests request ih =>
    obtain ⟨hbefore, -, hlast⟩ := List.pairwise_append.mp horder
    have hinv := ih hbefore fun earlier hearlier =>
      hlast earlier hearlier request (List.mem_singleton_self _)
    unfold serveAll
    rw [List.foldl_append]
    exact (hinv.serve request.2).mono
      (hnow request (List.mem_append_right _ (List.mem_singleton_self _)))

/-- What is read next is determined by the invariant. -/
theorem CacheInvariant.followsHistory (h : CacheInvariant settings now cache history) :
    FollowsHistory settings now cache history := by
  constructor
  · intro key returned hreturned
    unfold TimedCache.get at hreturned
    split at hreturned
    · cases hreturned
    · next stored hstored =>
      split_ifs at hreturned with hexpired
      obtain ⟨time, value, hlatest, hexpires, hcopied⟩ :=
        h.stored key stored.1 stored.2 (Dict.mem_of_get? hstored)
      refine ⟨time, value, hlatest, ?_, ?_⟩
      · rw [hexpires, not_le] at hexpired
        linarith
      · rw [← hcopied]
        exact (Option.some.inj hreturned).symm
  · intro key time value hlatest hfresh hfew
    have hheld : key ∈ cache.values.map Prod.fst := by
      rcases h.kept key time value hlatest with hheld | hexpired | hmany
      · exact hheld
      · linarith
      · exact absurd hfew hmany.not_gt
    obtain ⟨item, hitem, rfl⟩ := List.mem_map.mp hheld
    obtain ⟨time', value', hlatest', hexpires, hcopied⟩ :=
      h.stored item.1 item.2.1 item.2.2 hitem
    obtain ⟨rfl, rfl⟩ := Prod.mk.inj (Option.some.inj (hlatest.symm.trans hlatest'))
    have hunexpired : ¬ item.2.1 ≤ now := by
      rw [hexpires, not_le]
      linarith
    unfold TimedCache.get
    rw [Dict.get?_of_mem h.nodup hitem]
    dsimp only
    rw [if_neg hunexpired, hcopied]
  · exact h.bounded
  · exact h.reads
  · have hsize := h.size
    unfold TimedCache.stats
    dsimp only
    omega

end Invariant

namespace CacheSample

/-- Two entries, for ten seconds. -/
def settings : TimedCacheSettings String where
  cloneValue := id
  ttlSeconds := 10
  maxSize := 2

/-- The entry that was read stays, and the other one is evicted. -/
def requests : List (ℚ × CacheOperation String String) :=
  [(0, .set "AAPL" "equity"), (1, .set "UST" "bond"), (2, .get "AAPL"), (3, .set "SAP" "equity")]

theorem inOrder : InOrder requests := by
  unfold InOrder
  decide

end CacheSample

end LotusAdvise.LotusCore
