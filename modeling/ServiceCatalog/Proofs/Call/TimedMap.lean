import Mathlib.Data.Set.Card
import ServiceCatalog.Proofs.Call.Entries

/-!
# Caches over time

A cache is used by putting, reading, removing and clearing, each at some time of a clock that never
goes back.  What a cache holds is known from the history of its uses (`Cache.lookup_ofHistory`): the
entry of the last put under a key, unless the key was removed or the cache cleared since then, or
the key was read when the lifetime had elapsed.

So a cache stands for a map with lifetimes (`caches_are_timed_maps`).  The two differ in entries
whose lifetime has elapsed but that nobody has read since: those are still counted, and no reading
gives them.
-/

namespace ServiceCatalog.Cache

set_option autoImplicit false

open ServiceCatalog.Json

/-! ## Histories -/

/-- A use of a cache. -/
inductive Use where
  | put (key : String) (value : Value) (lifetime : Option Nat)
  | read (key : String)
  | remove (key : String)
  | clear

/-- A use of a cache with its time. -/
structure TimedUse where
  time : Nat
  use : Use

/-- The cache after a use. -/
def after (cache : Cache) (timed : TimedUse) : Cache :=
  match timed.use with
  | .put key value lifetime => cache.put timed.time key value lifetime
  | .read key => (cache.read timed.time key).2
  | .remove key => cache.remove key
  | .clear => empty

/-- The cache that was empty before a history. -/
def ofHistory (history : List TimedUse) : Cache := history.foldl after empty

theorem ofHistory_concat (history : List TimedUse) (timed : TimedUse) :
    ofHistory (history ++ [timed]) = (ofHistory history).after timed := by
  simp [ofHistory]

/-! ## What was put last -/

/-- A value that is put, with its lifetime and the time. -/
structure Put where
  time : Nat
  value : Value
  lifetime : Option Nat

namespace Put

/-- The use that puts a value under a key. -/
def under (key : String) (put : Put) : TimedUse := ⟨put.time, .put key put.value put.lifetime⟩

/-- The lifetime has elapsed; one of nothing elapses at once, and without one it never does. -/
def HasElapsed (put : Put) (now : Nat) : Prop :=
  ∃ span, put.lifetime = some span ∧ put.time + span ≤ now

/-- The entry that is kept for a value. -/
def entry (put : Put) : CacheEntry := ⟨put.value, put.lifetime.map fun span => put.time + span⟩

theorem isExpired_entry {put : Put} {now : Nat} :
    put.entry.isExpired now = true ↔ put.HasElapsed now := by
  obtain ⟨time, value, lifetime⟩ := put
  cases lifetime <;> simp [entry, CacheEntry.isExpired, HasElapsed]

/-- What has elapsed stays so. -/
theorem HasElapsed.mono {put : Put} {earlier later : Nat} (elapsed : put.HasElapsed earlier)
    (order : earlier ≤ later) : put.HasElapsed later := by
  obtain ⟨span, given, passed⟩ := elapsed
  exact ⟨span, given, passed.trans order⟩

end Put

/-- A use that decides what is under a key, whatever was there. -/
def Use.Decides (key : String) : Use → Prop
  | .put other _ _ => other = key
  | .read _ => False
  | .remove other => other = key
  | .clear => True

/-- The last put under a key, with the uses since then: none of them puts something under the key,
removes it or clears the cache. -/
structure LastPut (history : List TimedUse) (key : String) (put : Put) (since : List TimedUse) :
    Prop where
  split : ∃ before, history = before ++ put.under key :: since
  undecided : ∀ timed ∈ since, ¬ timed.use.Decides key

/-- A key was put and not removed, cleared, or read after its lifetime, since. -/
def Keeps (history : List TimedUse) (key : String) (put : Put) : Prop :=
  ∃ since, LastPut history key put since ∧
    ∀ timed ∈ since, timed.use = .read key → ¬ put.HasElapsed timed.time

section LastPut

variable {history since : List TimedUse} {timed : TimedUse} {key : String} {put : Put}

theorem lastPut_concat :
    LastPut (history ++ [timed]) key put since ↔
      (since = [] ∧ timed = put.under key) ∨
        ∃ earlier, since = earlier ++ [timed] ∧ ¬ timed.use.Decides key ∧
          LastPut history key put earlier := by
  constructor
  · rintro ⟨⟨before, split⟩, undecided⟩
    induction since using List.reverseRecOn with
    | nil =>
        obtain ⟨-, same⟩ := List.append_inj' split rfl
        exact .inl ⟨rfl, List.cons_eq_cons.mp same |>.1⟩
    | append_singleton earlier last _ =>
        rw [← List.cons_append, ← List.append_assoc] at split
        obtain ⟨whole, same⟩ := List.append_inj' split rfl
        obtain rfl : timed = last := List.cons_eq_cons.mp same |>.1
        obtain ⟨sparing, own⟩ := List.forall_mem_append.mp undecided
        exact .inr ⟨earlier, rfl, own timed (List.mem_singleton_self timed),
          ⟨before, whole⟩, sparing⟩
  · rintro (⟨rfl, rfl⟩ | ⟨earlier, rfl, own, ⟨before, rfl⟩, undecided⟩)
    · exact ⟨⟨history, rfl⟩, List.forall_mem_nil _⟩
    · refine ⟨⟨before, by simp⟩, List.forall_mem_append.mpr ⟨undecided, ?_⟩⟩
      exact List.forall_mem_singleton.mpr own

theorem keeps_nil : ¬ Keeps [] key put := by
  rintro ⟨since, ⟨⟨before, split⟩, -⟩, -⟩
  simp at split

/-- **What one more use means for what is kept.** -/
theorem keeps_concat :
    Keeps (history ++ [timed]) key put ↔
      timed = put.under key ∨
        (¬ timed.use.Decides key ∧ (timed.use = .read key → ¬ put.HasElapsed timed.time)) ∧
          Keeps history key put := by
  constructor
  · rintro ⟨since, last, unread⟩
    rcases lastPut_concat.mp last with ⟨-, own⟩ | ⟨earlier, rfl, undecided, before⟩
    · exact .inl own
    · obtain ⟨unreadBefore, unreadNow⟩ := List.forall_mem_append.mp unread
      exact .inr ⟨⟨undecided, unreadNow timed (List.mem_singleton_self timed)⟩,
        earlier, before, unreadBefore⟩
  · rintro (own | ⟨⟨undecided, unreadNow⟩, earlier, before, unreadBefore⟩)
    · exact ⟨[], lastPut_concat.mpr (.inl ⟨rfl, own⟩), List.forall_mem_nil _⟩
    · exact ⟨earlier ++ [timed], lastPut_concat.mpr (.inr ⟨earlier, rfl, undecided, before⟩),
        List.forall_mem_append.mpr ⟨unreadBefore, List.forall_mem_singleton.mpr unreadNow⟩⟩

end LastPut

/-! ## What a cache holds -/

/-- What a use does to the entry of a key. -/
def TimedUse.entryAfter (timed : TimedUse) (key : String) (held : Option CacheEntry) :
    Option CacheEntry :=
  match timed.use with
  | .put other value lifetime =>
      if key = other then some (Put.entry ⟨timed.time, value, lifetime⟩) else held
  | .read other =>
      if key = other then held.filter fun entry => !entry.isExpired timed.time else held
  | .remove other => if key = other then none else held
  | .clear => none

/-- **A use treats every key by itself.** -/
theorem lookup_after (cache : Cache) (timed : TimedUse) (key : String) :
    (cache.after timed).entries.lookup key = timed.entryAfter key (cache.entries.lookup key) := by
  obtain ⟨time, use⟩ := timed
  cases use with
  | put other value lifetime => exact lookup_assign other key _ cache.entries
  | read other =>
      refine (lookup_read time other cache key).trans ?_
      by_cases same : key = other <;> simp [TimedUse.entryAfter, same]
  | remove other => exact lookup_unassign other key cache.entries
  | clear => rfl

/-- A use puts an entry, or it leaves the one that is there. -/
theorem TimedUse.entryAfter_eq_some {timed : TimedUse} {key : String} {held : Option CacheEntry}
    {entry : CacheEntry} :
    timed.entryAfter key held = some entry ↔
      (∃ put, timed = Put.under key put ∧ put.entry = entry) ∨
        (¬ timed.use.Decides key ∧ (timed.use = .read key → entry.isExpired timed.time = false)) ∧
          held = some entry := by
  obtain ⟨time, use⟩ := timed
  cases use with
  | put other value lifetime =>
      by_cases same : key = other
      · subst same
        constructor
        · intro placed
          exact .inl ⟨⟨time, value, lifetime⟩, rfl, by simpa [entryAfter] using placed⟩
        · rintro (⟨put, own, rfl⟩ | ⟨⟨undecided, -⟩, -⟩)
          · cases own
            simp [entryAfter]
          · exact absurd rfl undecided
      · simp [entryAfter, Use.Decides, Put.under, same, Ne.symm same]
  | read other =>
      by_cases same : key = other
      · subst same
        simp [entryAfter, Use.Decides, Put.under, Option.filter_eq_some_iff, and_comm]
      · simp [entryAfter, Use.Decides, Put.under, same, Ne.symm same]
  | remove other =>
      by_cases same : key = other
      · simp [entryAfter, Use.Decides, Put.under, same]
      · simp [entryAfter, Use.Decides, Put.under, same, Ne.symm same]
  | clear => simp [entryAfter, Use.Decides, Put.under]

/-- **A cache holds what was put last**, unless it was taken out since. -/
theorem lookup_ofHistory {history : List TimedUse} {key : String} {entry : CacheEntry} :
    (ofHistory history).entries.lookup key = some entry ↔
      ∃ put, Keeps history key put ∧ put.entry = entry := by
  induction history using List.reverseRecOn generalizing entry with
  | nil => simp [ofHistory, empty, keeps_nil]
  | append_singleton history timed ih =>
      rw [ofHistory_concat, lookup_after, TimedUse.entryAfter_eq_some, ih]
      constructor
      · rintro (⟨put, own, rfl⟩ | ⟨⟨undecided, unexpired⟩, put, kept, rfl⟩)
        · exact ⟨put, keeps_concat.mpr (.inl own), rfl⟩
        · refine ⟨put, keeps_concat.mpr (.inr ⟨⟨undecided, ?_⟩, kept⟩), rfl⟩
          intro read elapsed
          exact absurd (Put.isExpired_entry.mpr elapsed) (Bool.eq_false_iff.mp (unexpired read))
      · rintro ⟨put, kept, rfl⟩
        rcases keeps_concat.mp kept with own | ⟨⟨undecided, unelapsed⟩, before⟩
        · exact .inl ⟨put, own, rfl⟩
        · refine .inr ⟨⟨undecided, fun read => ?_⟩, put, before, rfl⟩
          exact Bool.eq_false_iff.mpr (mt Put.isExpired_entry.mp (unelapsed read))

/-! ## How many entries there are -/

/-- A use keeps the keys of the entries different from each other. -/
theorem nodup_after {cache : Cache} (distinct : (cache.entries.map Prod.fst).Nodup)
    (timed : TimedUse) : ((cache.after timed).entries.map Prod.fst).Nodup := by
  obtain ⟨time, use⟩ := timed
  have unassigned (key : String) : ((unassign key cache.entries).map Prod.fst).Nodup :=
    distinct.sublist (List.filter_sublist.map Prod.fst)
  cases use with
  | put key value lifetime => exact nodup_assign distinct key _
  | read key =>
      simp only [after, read]
      split
      · exact distinct
      · split_ifs
        · exact unassigned key
        · exact distinct
  | remove key => exact unassigned key
  | clear => exact List.nodup_nil

theorem nodup_ofHistory (history : List TimedUse) :
    ((ofHistory history).entries.map Prod.fst).Nodup := by
  induction history using List.reverseRecOn with
  | nil => exact List.nodup_nil
  | append_singleton history timed ih =>
      rw [ofHistory_concat]
      exact nodup_after ih timed

/-- **Entries are counted by their keys.** -/
theorem size_ofHistory (history : List TimedUse) :
    (ofHistory history).size = {key | ∃ put, Keeps history key put}.ncard := by
  have keys : {key | ∃ put, Keeps history key put} =
      ((ofHistory history).entries.map Prod.fst).toFinset := by
    ext key
    simp only [Set.mem_ofPred_eq, List.coe_toFinset, List.mem_map]
    constructor
    · rintro ⟨put, kept⟩
      exact ⟨_, mem_of_lookup_eq_some (lookup_ofHistory.mpr ⟨put, kept, rfl⟩), rfl⟩
    · rintro ⟨⟨_, entry⟩, member, rfl⟩
      obtain ⟨put, kept, -⟩ := lookup_ofHistory.mp
        ((lookup_eq_some_iff_mem (nodup_ofHistory history) _ entry).mpr member)
      exact ⟨put, kept⟩
  rw [keys, Set.ncard_coe_finset, List.toFinset_card_of_nodup (nodup_ofHistory history), size,
    List.length_map]

/-! ## Reading -/

section Reading

variable {history : List TimedUse} {now : Nat} {key : String}

/-- A reading that finds no entry whose lifetime has elapsed changes nothing. -/
theorem read_of_unexpired {cache : Cache}
    (fresh : ∀ entry, cache.entries.lookup key = some entry → entry.isExpired now = false) :
    (cache.read now key).2 = cache := by
  simp only [read]
  split
  · rfl
  · next entry held => simp [fresh entry held]

/-- What was put last and has not elapsed is kept: no reading can have found that it had. -/
theorem LastPut.keeps {put : Put} {since : List TimedUse} (last : LastPut history key put since)
    (clock : ∀ timed ∈ history, timed.time ≤ now) (fresh : ¬ put.HasElapsed now) :
    Keeps history key put := by
  refine ⟨since, last, fun timed member _ elapsed => fresh (elapsed.mono (clock timed ?_))⟩
  obtain ⟨before, rfl⟩ := last.split
  exact List.mem_append_right _ (List.mem_cons_of_mem _ member)

theorem read_ofHistory_eq_some (clock : ∀ timed ∈ history, timed.time ≤ now) {value : Value} :
    ((ofHistory history).read now key).1 = some value ↔
      ∃ put since, LastPut history key put since ∧ put.value = value ∧ ¬ put.HasElapsed now := by
  simp only [read_found, Option.map_eq_some_iff, Option.filter_eq_some_iff, Bool.not_eq_true',
    lookup_ofHistory]
  constructor
  · rintro ⟨_, ⟨⟨put, ⟨since, last, -⟩, rfl⟩, unexpired⟩, rfl⟩
    refine ⟨put, since, last, rfl, fun elapsed => ?_⟩
    exact absurd (Put.isExpired_entry.mpr elapsed) (Bool.eq_false_iff.mp unexpired)
  · rintro ⟨put, since, last, rfl, fresh⟩
    refine ⟨put.entry, ⟨⟨put, last.keeps clock fresh, rfl⟩, ?_⟩, rfl⟩
    exact Bool.eq_false_iff.mpr (mt Put.isExpired_entry.mp fresh)

end Reading

/-- **A cache is a map with lifetimes.**  Let a cache be used in any way by a clock that never goes
back, and let it be read.

* The reading gives a value exactly if that was put last under the key, with no removal and no
  clearing since, and its lifetime has not elapsed.
* The reading leaves the entries of all other keys as they are; unless the lifetime of what was put
  last has elapsed, it changes nothing at all.
* The size is the number of keys that were put and not removed, cleared, or read after their
  lifetime, since. -/
theorem caches_are_timed_maps (history : List TimedUse) (now : Nat)
    (clock : ∀ timed ∈ history, timed.time ≤ now) :
    (∀ key value, ((ofHistory history).read now key).1 = some value ↔
      ∃ put since, LastPut history key put since ∧ put.value = value ∧ ¬ put.HasElapsed now) ∧
    (∀ key,
      (∀ other, other ≠ key → ((ofHistory history).read now key).2.entries.lookup other =
        (ofHistory history).entries.lookup other) ∧
      ((∀ put since, LastPut history key put since → ¬ put.HasElapsed now) →
        ((ofHistory history).read now key).2 = ofHistory history)) ∧
    (ofHistory history).size = {key | ∃ put, Keeps history key put}.ncard := by
  refine ⟨?_, ?_, size_ofHistory history⟩
  · intro key value
    exact read_ofHistory_eq_some clock
  · intro key
    constructor
    · intro other different
      rw [lookup_read, if_neg different]
    · intro fresh
      apply read_of_unexpired
      intro entry held
      obtain ⟨put, ⟨since, last, -⟩, rfl⟩ := lookup_ofHistory.mp held
      exact Bool.eq_false_iff.mpr (mt Put.isExpired_entry.mp (fresh put since last))

/-- A key is put with a lifetime of nothing, read, and put again with a longer one; another key has
its lifetime taken off, and a third one is left alone until its lifetime is over. -/
def shelfHistory : List TimedUse :=
  [⟨0, .put "jars" .null (some 0)⟩, ⟨0, .read "jars"⟩, ⟨1, .put "jars" (.bool true) (some 5)⟩,
    ⟨1, .put "cups" .null (some 2)⟩, ⟨2, .put "cups" (.bool false) none⟩,
    ⟨2, .put "plates" .null (some 1)⟩]

/-- The key that was revived and the one without a lifetime are found.  The third one is not, but it
is still counted; reading it touches no other key. -/
theorem shelf_history_is_read :
    (∀ timed ∈ shelfHistory, timed.time ≤ 4) ∧
      ((ofHistory shelfHistory).read 4 "jars").1 = some (.bool true) ∧
      ((ofHistory shelfHistory).read 4 "cups").1 = some (.bool false) ∧
      ((ofHistory shelfHistory).read 4 "plates").1 = none ∧
      ((ofHistory shelfHistory).read 4 "plates").2.entries.lookup "cups" =
        (ofHistory shelfHistory).entries.lookup "cups" ∧
      {key | ∃ put, Keeps shelfHistory key put}.ncard = 3 := by
  have clock : ∀ timed ∈ shelfHistory, timed.time ≤ 4 := by decide
  obtain ⟨gives, leaves, counts⟩ := caches_are_timed_maps shelfHistory 4 clock
  refine ⟨clock, (gives _ _).mpr ?_, (gives _ _).mpr ?_, rfl, (leaves _).1 _ (by decide),
    counts.symm⟩
  · exact ⟨⟨1, .bool true, some 5⟩, shelfHistory.drop 3,
      ⟨⟨shelfHistory.take 2, rfl⟩, by simp [shelfHistory, Use.Decides]⟩, rfl,
      by simp [Put.HasElapsed]⟩
  · exact ⟨⟨2, .bool false, none⟩, shelfHistory.drop 5,
      ⟨⟨shelfHistory.take 4, rfl⟩, by simp [shelfHistory, Use.Decides]⟩, rfl,
      by simp [Put.HasElapsed]⟩

end ServiceCatalog.Cache
