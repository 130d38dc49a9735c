import ContractAudit.Proofs.CacheEntries
import Mathlib.Algebra.Order.Ring.Unbundled.Rat
import Mathlib.Data.List.Induction

/-!
# The history of a cache

A cache of results is told to get, set, delete, clear and count, in any order and with keys in any
letter case. As long as the clock does not go back, it finds nothing under an address but what the
last write of the address has set, and only for as long as that lives; if it has room for all keys,
it finds that until then (`ResultCache.run_sound`).

The invariants are `ResultCache.Accounts` and, for the other direction, `ResultCache.Retains`. Both
speak of what lives only: a delete leaves a dead entry where it is, and this entry must never be
found again although its history has ended.
-/

namespace ContractAudit

/-- What a cache of results can be told to do. -/
inductive CacheCommand (α : Type) where
  | get (address : Text)
  | set (address : Text) (value : Option α)
  | delete (address : Text)
  | clear
  | size

/-- Whether a command sets, deletes or clears a key. -/
def CacheCommand.Writes {α : Type} (key : Text) : CacheCommand α → Prop
  | .get _ => False
  | .set x _ => x.lower = key
  | .delete x => x.lower = key
  | .clear => True
  | .size => False

instance {α : Type} (key : Text) : (command : CacheCommand α) → Decidable (command.Writes key)
  | .get _ | .size => inferInstanceAs (Decidable False)
  | .set x _ | .delete x => inferInstanceAs (Decidable (x.lower = key))
  | .clear => inferInstanceAs (Decidable True)

/-- Commands and when they were given, first to last. -/
abbrev CacheHistory (α : Type) := List (Rat × CacheCommand α)

/-- The last command that wrote a key has set it to what is kept. -/
def SetLast {α : Type} (history : CacheHistory α) (k : Kept α) : Prop :=
  ∃ before x after, history = before ++ (k.setAt, .set x k.value) :: after ∧ x.lower = k.key ∧
    ∀ step ∈ after, ¬ step.2.Writes k.key

namespace SetLast

variable {α : Type} {history : CacheHistory α} {k : Kept α}

/-- What was set last is still so after a step that does not write the key. -/
lemma concat (h : SetLast history k) {step : Rat × CacheCommand α} (hstep : ¬ step.2.Writes k.key) :
    SetLast (history ++ [step]) k := by
  obtain ⟨before, x, after, rfl, hx, hafter⟩ := h
  refine ⟨before, x, after ++ [step], by simp, hx, ?_⟩
  intro other hother
  rcases List.mem_append.1 hother with hother | hother
  · exact hafter other hother
  · obtain rfl := List.mem_singleton.1 hother
    exact hstep

/-- What has just been set was set last. -/
lemma of_set (history : CacheHistory α) (now : Rat) (x : Text) (value : Option α) :
    SetLast (history ++ [(now, .set x value)]) ⟨x.lower, value, now⟩ :=
  ⟨history, x, [], rfl, rfl, by simp⟩

/-- The last command of a history has set what is kept, or leaves it as it was. -/
lemma of_concat {step : Rat × CacheCommand α} (h : SetLast (history ++ [step]) k) :
    (SetLast history k ∧ ¬ step.2.Writes k.key) ∨
      ∃ x, step = (k.setAt, .set x k.value) ∧ x.lower = k.key := by
  obtain ⟨before, x, after, hhistory, hx, hafter⟩ := h
  rcases List.eq_nil_or_concat' after with rfl | ⟨rest, last, rfl⟩
  · obtain ⟨-, hstep⟩ := List.append_inj' hhistory rfl
    exact .inr ⟨x, List.singleton_inj.1 hstep, hx⟩
  · rw [← List.cons_append, ← List.append_assoc] at hhistory
    obtain ⟨rfl, hstep⟩ := List.append_inj' hhistory rfl
    obtain rfl := List.singleton_inj.1 hstep
    left
    refine ⟨⟨before, x, rest, rfl, hx, ?_⟩, hafter step (by simp)⟩
    exact fun other hother => hafter other (List.mem_append_left _ hother)

end SetLast

/-- The keys that are ever set. -/
def CacheHistory.setKeys {α : Type} (history : CacheHistory α) : List Text :=
  history.filterMap fun step =>
    match step.2 with
    | .set x _ => some x.lower
    | _ => none

/-- The key of a set in a history is among its keys. -/
lemma CacheHistory.lower_mem_setKeys {α : Type} {history : CacheHistory α}
    {step : Rat × CacheCommand α} (hstep : step ∈ history) {x : Text} {value : Option α}
    (hset : step.2 = .set x value) : x.lower ∈ history.setKeys :=
  List.mem_filterMap.2 ⟨step, hstep, by rw [hset]⟩

namespace ResultCache

variable {α : Type} {c : ResultCache α} {history : CacheHistory α} {now : Rat}

/-- The cache after a command. A set that is refused changes nothing. -/
def after (c : ResultCache α) (now : Rat) : CacheCommand α → ResultCache α
  | .get x => (c.get now x).2.1
  | .set x value =>
    match c.set now x value with
    | .ok (c', _) => c'
    | .error _ => c
  | .delete x => (c.delete now x).2.1
  | .clear => c.clear.1
  | .size => (c.size now).2

/-- The cache after all steps of a history. -/
def run (c : ResultCache α) (history : CacheHistory α) : ResultCache α :=
  history.foldl (fun c step => c.after step.1 step.2) c

/-- The last step of a history comes after the run of the others. -/
lemma run_concat (c : ResultCache α) (history : CacheHistory α) (now : Rat)
    (command : CacheCommand α) :
    c.run (history ++ [(now, command)]) = (c.run history).after now command :=
  List.foldl_concat _ _ _ _

/-- A set of a result is a set under the address in lower case. -/
lemma cache_of_set_eq_ok {x : Text} {value : Option α} {c' : ResultCache α} {record : LogRecord}
    (hset : c.set now x value = .ok (c', record)) :
    c.cache.set now x.lower value = .ok c'.cache := by
  unfold set keyOf at hset
  split at hset
  · cases hset
  · rename_i cache hcache
    cases hset
    exact hcache

/-- Only a cache without any room refuses a result. -/
lemma capacity_of_set_eq_error {x : Text} {value : Option α} {e : CacheError}
    (hset : c.set now x value = .error e) : c.cache.capacity = 0 := by
  unfold set at hset
  split at hset
  · rename_i hcache
    exact Cache.capacity_of_set_eq_error hcache
  · cases hset

/-- No command changes the room or the lifetime. -/
lemma limits_after (c : ResultCache α) (now : Rat) (command : CacheCommand α) :
    (c.after now command).cache.capacity = c.cache.capacity ∧
      (c.after now command).cache.ttl = c.cache.ttl := by
  cases command with
  | get x => exact c.cache.limits_get now _
  | set x value =>
    simp only [after]
    split
    · rename_i hset
      exact Cache.limits_set (cache_of_set_eq_ok hset)
    · exact ⟨rfl, rfl⟩
  | delete x =>
    simp only [after, delete, Cache.delete]
    split
    · exact ⟨rfl, rfl⟩
    · exact ⟨rfl, rfl⟩
  | clear => exact ⟨rfl, rfl⟩
  | size => exact ⟨rfl, rfl⟩

/-- Whatever the clock does, no command makes a cache keep a key twice. -/
lemma nodup_keys_after (hdistinct : c.cache.keys.Nodup) (now : Rat) (command : CacheCommand α) :
    (c.after now command).cache.keys.Nodup := by
  cases command with
  | get x =>
    rw [Cache.keys] at hdistinct ⊢
    exact (c.cache.kept_get now x.lower).symm ▸ hdistinct
  | set x value =>
    simp only [after]
    split
    · rename_i hset
      exact Cache.nodup_keys_set hdistinct (cache_of_set_eq_ok hset)
    · exact hdistinct
  | delete x => exact Cache.nodup_keys_of_sublist hdistinct (c.cache.kept_delete now x.lower)
  | clear => exact List.nodup_nil
  | size => exact Cache.nodup_keys_of_sublist hdistinct (c.cache.kept_expire now)

/-- What is true of every entry stays true if it is true of what is set. -/
lemma holds_after {P : Text → Option α → Prop} (h : c.cache.Holds P) (now : Rat)
    {command : CacheCommand α} (hset : ∀ x value, command = .set x value → P x.lower value) :
    (c.after now command).cache.Holds P := by
  cases command with
  | get x => exact h.get now x.lower
  | set x value =>
    simp only [after]
    split
    · rename_i hcache
      exact h.set (hset x value rfl) (cache_of_set_eq_ok hcache)
    · exact h
  | delete x => exact h.of_subset (c.cache.kept_delete now x.lower).subset
  | clear => exact nofun
  | size => exact h.of_subset (c.cache.kept_expire now).subset

/-- No run changes the room or the lifetime. -/
lemma limits_run (c : ResultCache α) (history : CacheHistory α) :
    (c.run history).cache.capacity = c.cache.capacity ∧
      (c.run history).cache.ttl = c.cache.ttl := by
  induction history using List.reverseRecOn with
  | nil => exact ⟨rfl, rfl⟩
  | append_singleton history step ih =>
    obtain ⟨hcapacity, httl⟩ := (c.run history).limits_after step.1 step.2
    rw [run_concat]
    exact ⟨hcapacity.trans ih.1, httl.trans ih.2⟩

/-- No key is kept twice, and what lives was set last. -/
structure Accounts (history : CacheHistory α) (now : Rat) (c : ResultCache α) : Prop where
  distinct : c.cache.keys.Nodup
  living : ∀ k ∈ c.cache.kept, now < k.setAt + c.cache.ttl → SetLast history k

namespace Accounts

/-- As time goes by, less lives, and that was still set last. -/
lemma later (h : c.Accounts history now) {t : Rat} (hle : now ≤ t) : c.Accounts history t :=
  ⟨h.distinct, fun k hk hlives => h.living k hk (lt_of_le_of_lt hle hlives)⟩

/-- Of a command that sets nothing it is enough that nothing living is left of what it writes. -/
lemma concat_of_subset (h : c.Accounts history now) {c' : ResultCache α} {command : CacheCommand α}
    (hsub : c'.cache.kept ⊆ c.cache.kept)
    (hwritten : ∀ k ∈ c'.cache.kept, command.Writes k.key → ¬ now < k.setAt + c.cache.ttl) :
    ∀ k ∈ c'.cache.kept, now < k.setAt + c.cache.ttl → SetLast (history ++ [(now, command)]) k := by
  intro k hk hlives
  apply (h.living k (hsub hk) hlives).concat
  intro hwrites
  exact hwritten k hk hwrites hlives

/-- After a set, what lives was set last. -/
lemma concat_of_set (h : c.Accounts history now) {x : Text} {value : Option α} {c' : Cache α}
    (hset : c.cache.set now x.lower value = .ok c') :
    ∀ k ∈ c'.kept, now < k.setAt + c.cache.ttl →
      SetLast (history ++ [(now, .set x value)]) k := by
  intro k hk hlives
  rcases Cache.mem_or_eq_of_mem_kept_set hset hk with ⟨hk, hother⟩ | rfl
  · apply (h.living k hk hlives).concat
    intro hwrites
    exact hother hwrites.symm
  · exact SetLast.of_set history now x value

/-- Every command is accounted for. -/
lemma after (h : c.Accounts history now) (hroom : 0 < c.cache.capacity)
    (command : CacheCommand α) :
    (c.after now command).Accounts (history ++ [(now, command)]) now := by
  refine ⟨nodup_keys_after h.distinct now command, ?_⟩
  rw [(c.limits_after now command).2]
  cases command with
  | get x =>
    apply h.concat_of_subset
    · exact (c.cache.kept_get now x.lower).symm ▸ List.Subset.refl _
    · rintro k - ⟨⟩
  | set x value =>
    simp only [ResultCache.after]
    split
    · rename_i hset
      exact h.concat_of_set (cache_of_set_eq_ok hset)
    · rename_i hset
      exact absurd (capacity_of_set_eq_error hset) (Nat.ne_of_gt hroom)
  | delete x =>
    apply h.concat_of_subset (c.cache.kept_delete now x.lower).subset
    intro k hk hwrites
    exact Cache.dead_of_mem_kept_delete h.distinct (hwrites ▸ hk)
  | clear => rintro k ⟨⟩
  | size =>
    apply h.concat_of_subset (c.cache.kept_expire now).subset
    rintro k - ⟨⟩

end Accounts

/-- An empty cache has nothing to account for. -/
lemma accounts_empty (name : Text) (capacity : Nat) (ttl now : Rat) :
    (⟨name, .empty capacity ttl⟩ : ResultCache α).Accounts [] now :=
  ⟨List.nodup_nil, fun k hk => by cases hk⟩

/-- A run that starts from an empty cache is accounted for at every later time. -/
lemma accounts_run (name : Text) {capacity : Nat} (hroom : 0 < capacity) (ttl : Rat)
    (history : CacheHistory α) {now : Rat}
    (hclock : (history.map Prod.fst ++ [now]).Pairwise (· ≤ ·)) :
    (run ⟨name, .empty capacity ttl⟩ history).Accounts history now := by
  induction history using List.reverseRecOn generalizing now with
  | nil => exact accounts_empty name capacity ttl now
  | append_singleton history step ih =>
    rw [List.map_append, List.pairwise_append] at hclock
    obtain ⟨hbefore, -, hle⟩ := hclock
    have hcapacity := (limits_run ⟨name, .empty capacity ttl⟩ history).1
    rw [run_concat]
    apply Accounts.later ((ih hbefore).after (hcapacity.symm ▸ hroom) step.2)
    exact hle _ (by simp) _ (by simp)

/-- The keys are among some, and what was set last is kept while it lives. -/
structure Retains (keys : Finset Text) (history : CacheHistory α) (now : Rat)
    (c : ResultCache α) : Prop where
  among : c.cache.Holds fun key _ => key ∈ keys
  living : ∀ k, SetLast history k → now < k.setAt + c.cache.ttl → k ∈ c.cache.kept

namespace Retains

variable {keys : Finset Text}

/-- As time goes by, less lives, and that is still kept. -/
lemma later (h : c.Retains keys history now) {t : Rat} (hle : now ≤ t) :
    c.Retains keys history t :=
  ⟨h.among, fun k hlast hlives => h.living k hlast (lt_of_le_of_lt hle hlives)⟩

/-- No command drops what lives and is not written. -/
lemma mem_after (h : c.Retains keys history now) (hdistinct : c.cache.keys.Nodup)
    (hcard : keys.card ≤ c.cache.capacity) {command : CacheCommand α}
    (hset : ∀ x value, command = .set x value → x.lower ∈ keys) {k : Kept α}
    (hk : k ∈ c.cache.kept) (hlives : now < k.setAt + c.cache.ttl)
    (hwrites : ¬ command.Writes k.key) : k ∈ (c.after now command).cache.kept := by
  cases command with
  | get x => exact (c.cache.kept_get now x.lower).symm ▸ hk
  | set x value =>
    simp only [ResultCache.after]
    split
    · rename_i hcache
      exact Cache.mem_kept_set_of_card (cache_of_set_eq_ok hcache) hdistinct
        (Cache.holds_iff.1 h.among) hcard (hset x value rfl) hk (fun hkey => hwrites hkey.symm)
        hlives
    · exact hk
  | delete x => exact Cache.mem_kept_delete hk fun hkey => hwrites hkey.symm
  | clear => exact absurd trivial hwrites
  | size => exact Cache.mem_kept_expire hk hlives

/-- A command leaves all that lives if there is room for all keys. -/
lemma after (h : c.Retains keys history now) (hdistinct : c.cache.keys.Nodup)
    (hroom : 0 < c.cache.capacity) (hcard : keys.card ≤ c.cache.capacity)
    {command : CacheCommand α} (hset : ∀ x value, command = .set x value → x.lower ∈ keys) :
    (c.after now command).Retains keys (history ++ [(now, command)]) now := by
  refine ⟨holds_after h.among now hset, ?_⟩
  rw [(c.limits_after now command).2]
  intro k hlast hlives
  rcases hlast.of_concat with ⟨hlast, hwrites⟩ | ⟨x, hstep, hx⟩
  · exact h.mem_after hdistinct hcard hset (h.living k hlast hlives) hlives hwrites
  · obtain ⟨key, value, t⟩ := k
    cases hstep
    obtain rfl : x.lower = key := hx
    simp only [ResultCache.after]
    split
    · rename_i hcache
      exact Cache.mem_kept_set_self (cache_of_set_eq_ok hcache)
    · rename_i hcache
      exact absurd (capacity_of_set_eq_error hcache) (Nat.ne_of_gt hroom)

end Retains

/-- A run from an empty cache keeps all that lives if there is room for all keys. -/
lemma retains_run (name : Text) {capacity : Nat} (hroom : 0 < capacity) (ttl : Rat)
    {keys : Finset Text} (hcard : keys.card ≤ capacity) (history : CacheHistory α) {now : Rat}
    (hclock : (history.map Prod.fst ++ [now]).Pairwise (· ≤ ·))
    (hkeys : ∀ step ∈ history, ∀ x value, step.2 = .set x value → x.lower ∈ keys) :
    (run ⟨name, .empty capacity ttl⟩ history).Retains keys history now := by
  induction history using List.reverseRecOn generalizing now with
  | nil =>
    refine ⟨nofun, ?_⟩
    rintro k ⟨before, x, after, hhistory, -⟩
    simp at hhistory
  | append_singleton history step ih =>
    rw [List.map_append, List.pairwise_append] at hclock
    obtain ⟨hbefore, -, hle⟩ := hclock
    have hretains := ih hbefore fun step hstep => hkeys step (List.mem_append_left _ hstep)
    have hdistinct := (accounts_run name hroom ttl history hbefore).distinct
    have hcapacity := (limits_run ⟨name, .empty capacity ttl⟩ history).1
    rw [run_concat]
    apply Retains.later (hretains.after hdistinct _ _ (hkeys step (by simp)))
    · exact hle _ (by simp) _ (by simp)
    · exact hcapacity.symm ▸ hroom
    · exact hcapacity.symm ▸ hcard

/-- What is found under an address is what the last write of the address has set, less than a
lifetime ago, and where there is room for all keys this is found. A delete says whether something
would have been found. -/
theorem run_sound (name : Text) {capacity : Nat} (hroom : 0 < capacity) (ttl : Rat)
    (history : CacheHistory α) (now : Rat)
    (hclock : (history.map Prod.fst ++ [now]).Pairwise (· ≤ ·)) (x : Text) :
    (∀ v, ((run ⟨name, .empty capacity ttl⟩ history).get now x).1 = some v →
        ∃ t, SetLast history ⟨x.lower, some v, t⟩ ∧ now < t + ttl) ∧
      (history.setKeys.toFinset.card ≤ capacity →
        ∀ v t, SetLast history ⟨x.lower, some v, t⟩ → now < t + ttl →
          ((run ⟨name, .empty capacity ttl⟩ history).get now x).1 = some v) ∧
      (((run ⟨name, .empty capacity ttl⟩ history).delete now x).1 = true ↔
        ∃ v, ((run ⟨name, .empty capacity ttl⟩ history).get now x).1 = some v) := by
  have haccounts := accounts_run name hroom ttl history hclock
  have httl : (run ⟨name, .empty capacity ttl⟩ history).cache.ttl = ttl := (limits_run _ history).2
  refine ⟨?_, ?_, ?_⟩
  · intro v hget
    obtain ⟨t, hkept, hlives⟩ := Cache.exists_kept_of_get hget
    have hlast := haccounts.living _ hkept hlives
    rw [httl] at hlives
    exact ⟨t, hlast, hlives⟩
  · intro hcard v t hlast hlives
    have hretains := retains_run name hroom ttl hcard history hclock fun step hstep x value hset =>
      List.mem_toFinset.2 (CacheHistory.lower_mem_setKeys hstep hset)
    rw [← httl] at hlives
    exact (Cache.get_eq_some_iff haccounts.distinct).2 ⟨t, hretains.living _ hlast hlives, hlives⟩
  · rw [← Option.isSome_iff_exists]
    exact Bool.coe_iff_coe.2 (Cache.delete_eq_isSome_get _ _ _)

/-- An address that is set twice, another one that is set and deleted when it is dead, and one that
is set to nothing. -/
def sixCommands : CacheHistory Nat :=
  [(0, .set "0xAB" (some 1)), (1, .set "0xCD" (some 2)), (8, .set "0xaB" (some 3)),
   (11, .delete "0xcd"), (12, .size), (12, .set "0xEF" none)]

/-- Six commands on three addresses leave the second value of the first one. It is found after the
first value would have died, and it is the last one that was set. -/
theorem run_sound_sixCommands :
    sixCommands.setKeys.toFinset.card ≤ 3 ∧
      ((run ⟨"c", .empty 3 10⟩ sixCommands).get 17 "0xab").1 = some 3 ∧
      ((run ⟨"c", .empty 3 10⟩ sixCommands).delete 17 "0xab").1 = true ∧
      ∃ t, SetLast sixCommands ⟨Text.lower "0xab", some 3, t⟩ ∧ (17 : Rat) < t + 10 := by
  have hcard : sixCommands.setKeys.toFinset.card ≤ 3 := by decide +kernel
  have hlast : SetLast sixCommands ⟨Text.lower "0xab", some 3, 8⟩ :=
    ⟨sixCommands.take 2, "0xaB", sixCommands.drop 3, rfl, by decide +kernel, by decide +kernel⟩
  obtain ⟨hfound, hfinds, hdelete⟩ :=
    run_sound "c" (by decide : 0 < 3) 10 sixCommands 17 (by decide +kernel) "0xab"
  have hget := hfinds hcard 3 8 hlast (by decide +kernel)
  exact ⟨hcard, hget, hdelete.2 ⟨3, hget⟩, hfound 3 hget⟩

end ResultCache

end ContractAudit
