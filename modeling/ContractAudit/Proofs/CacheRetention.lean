import ContractAudit.Proofs.CacheHistory
import Mathlib.Data.List.DropRight

/-!
# What a full cache retains

A cache never has more entries than it has room for, and no key twice. When there is no room, it
drops the entry that was used least recently. So an entry that lives is dropped only after as many
other keys have been used since its own last use as the cache has room for
(`ResultCache.run_retention`).

The number that an entry has for its last use is the place of this use among all uses of the run
(`Cache.Numbered`). That is why the order of the numbers is the order of the last uses. The order of
the entries is that of their times as long as the clock does not go back, and the expiry scan, which
stops at the first entry that lives, leaves no dead entry behind (`Cache.kept_expire_eq_filter`).
-/

namespace ContractAudit

/-! ## Uses -/

/-- The keys that were used since the last use of a key. -/
def usedSince (key : Text) (uses : List Text) : Finset Text :=
  (uses.rtakeWhile fun other => other ≠ key).toFinset

/-- The last use of a key has so many uses before it. -/
def LastUse (uses : List Text) (key : Text) (n : Nat) : Prop :=
  ∃ before after, uses = before ++ key :: after ∧ key ∉ after ∧ before.length = n

section Uses

variable {uses : List Text} {key other : Text} {n n' : Nat}

/-- A use of another key is one more key used since. -/
lemma usedSince_concat (h : other ≠ key) :
    usedSince key (uses ++ [other]) = insert other (usedSince key uses) := by
  rw [usedSince, usedSince, List.rtakeWhile_concat, if_pos (decide_eq_true h),
    List.toFinset_append, List.toFinset_cons, List.toFinset_nil, Finset.union_comm]
  rfl

/-- What comes after the last use of a key is what was used since. -/
lemma usedSince_append_cons {before after : List Text} (h : key ∉ after) :
    usedSince key (before ++ key :: after) = after.toFinset := by
  have hothers : ∀ other ∈ after.reverse, decide (other ≠ key) = true := by
    intro other hother
    apply decide_eq_true
    rintro rfl
    exact h (List.mem_reverse.1 hother)
  rw [usedSince, List.rtakeWhile, List.reverse_append, List.reverse_cons, List.append_assoc,
    List.singleton_append, List.takeWhile_append_of_pos hothers,
    List.takeWhile_cons_of_neg (by simp), List.append_nil, List.reverse_reverse]

/-- A use at the end is the last one. -/
lemma LastUse.concat_self (uses : List Text) (key : Text) :
    LastUse (uses ++ [key]) key uses.length :=
  ⟨uses, [], rfl, List.not_mem_nil, rfl⟩

/-- A use of another key leaves the last use where it is. -/
lemma LastUse.concat (h : LastUse uses key n) (hne : other ≠ key) :
    LastUse (uses ++ [other]) key n := by
  obtain ⟨before, after, rfl, hafter, hlength⟩ := h
  refine ⟨before, after ++ [other], by simp, ?_, hlength⟩
  rw [List.mem_append, List.mem_singleton, not_or]
  exact ⟨hafter, hne.symm⟩

/-- What has its last use after that of a key was used since. -/
lemma LastUse.mem_usedSince (h : LastUse uses key n) (h' : LastUse uses other n')
    (hle : n ≤ n') (hne : other ≠ key) : other ∈ usedSince key uses := by
  obtain ⟨before, after, rfl, hafter, rfl⟩ := h
  obtain ⟨before', after', huses, -, rfl⟩ := h'
  rw [usedSince_append_cons hafter, List.mem_toFinset]
  rcases List.append_eq_append_iff.1 huses with ⟨between, rfl, hrest⟩ | ⟨between, rfl, hrest⟩
  · cases between with
    | nil => exact absurd (List.cons.inj hrest).1.symm hne
    | cons first between =>
      rw [(List.cons.inj hrest).2]
      exact List.mem_append_right _ List.mem_cons_self
  · have hnil : between = [] := by
      rw [List.length_append] at hle
      exact List.length_eq_zero_iff.1 (by omega)
    subst hnil
    exact absurd (List.cons.inj hrest).1 hne

end Uses

namespace Cache

variable {α : Type} {c c' : Cache α} {now : Rat} {key : Text} {value : Option α} {e : Entry α}
  {uses : List Text}

/-! ## Room -/

/-- There is a least used entry unless there is none at all. -/
lemma leastUsed?_eq_none {entries : List (Entry α)} : leastUsed? entries = none ↔ entries = [] := by
  cases entries with
  | nil => simp [leastUsed?]
  | cons e rest =>
    rw [leastUsed?]
    split
    · simp
    · split
      · simp
      · simp

/-- What was used least recently is an entry, and no entry was used before it. -/
lemma leastUsed?_eq_some {entries : List (Entry α)} (h : leastUsed? entries = some e) :
    e ∈ entries ∧ ∀ other ∈ entries, e.used ≤ other.used := by
  induction entries generalizing e with
  | nil => cases h
  | cons first rest ih =>
    rw [leastUsed?] at h
    split at h
    · rename_i hrest
      obtain rfl := leastUsed?_eq_none.1 hrest
      cases h
      simp
    · rename_i m hrest
      obtain ⟨hm, hle⟩ := ih hrest
      split at h
      · rename_i hfirst
        cases h
        refine ⟨List.mem_cons_self, ?_⟩
        intro other hother
        rcases List.mem_cons.1 hother with rfl | hother
        · exact Nat.le_refl _
        · exact Nat.le_trans hfirst (hle other hother)
      · rename_i hfirst
        cases h
        refine ⟨List.mem_cons_of_mem _ hm, ?_⟩
        intro other hother
        rcases List.mem_cons.1 hother with rfl | hother
        · exact Nat.le_of_not_le hfirst
        · exact hle other hother

/-- Erasing a key that is kept makes the cache shorter. -/
lemma length_erase_lt (h : key ∈ c.keys) : (c.erase key).entries.length < c.entries.length := by
  obtain ⟨k, hk, rfl⟩ := List.mem_map.1 h
  obtain ⟨e, he, rfl⟩ := List.mem_map.1 hk
  apply List.length_filter_lt_length_iff_exists.2
  exact ⟨e, he, by simp [Entry.kept]⟩

/-- The key of an entry is a key of the cache. -/
lemma mem_keys (he : e ∈ c.entries) : e.key ∈ c.keys :=
  List.mem_map_of_mem (List.mem_map_of_mem he)

/-- A cache that is not too full has room for one more after room was made. -/
lemma length_makeRoom_lt (hroom : 0 < c.capacity) (hfits : c.entries.length ≤ c.capacity) :
    c.makeRoom.entries.length < c.capacity := by
  unfold makeRoom
  split
  · assumption
  · rename_i hfull
    split
    · rename_i e hleast
      have hlt := length_erase_lt (mem_keys (leastUsed?_eq_some hleast).1)
      omega
    · rename_i hnone
      rw [leastUsed?_eq_none] at hnone
      rw [hnone] at hfull
      exact absurd hroom hfull

/-- Expiry does not make a cache longer. -/
lemma length_expire_le (c : Cache α) (now : Rat) :
    (c.expire now).entries.length ≤ c.entries.length :=
  (List.dropWhile_sublist _).length_le

/-- A set leaves no more entries than there is room for. -/
lemma length_set_le (hset : c.set now key value = .ok c') (hroom : 0 < c.capacity)
    (hfits : c.entries.length ≤ c.capacity) : c'.entries.length ≤ c.capacity := by
  have hexpire := c.length_expire_le now
  obtain ⟨hstored, rfl⟩ | ⟨-, rfl⟩ := set_cases hset
  · have hlt := length_erase_lt hstored
    simp only [append, List.length_append, List.length_singleton]
    omega
  · have hlt := length_makeRoom_lt (c := c.expire now) hroom (hexpire.trans hfits)
    simp only [append, List.length_append, List.length_singleton]
    exact hlt

/-- A living entry that a set drops is the one that was used least recently, and there was no room
for the key. -/
lemma of_notMem_kept_set (hset : c.set now key value = .ok c') (hdistinct : c.keys.Nodup)
    (he : e ∈ c.entries) (hlives : now < e.setAt + c.ttl) (hother : e.key ≠ key)
    (hdropped : e.kept ∉ c'.kept) :
    key ∉ (c.expire now).keys ∧ c.capacity ≤ (c.expire now).entries.length ∧
      ∀ other ∈ (c.expire now).entries, e.used ≤ other.used := by
  have hstays : e.kept ∈ (c.expire now).kept := mem_kept_expire (List.mem_map_of_mem he) hlives
  obtain ⟨-, rfl⟩ | ⟨hmissing, rfl⟩ := set_cases hset
  · rw [kept_append] at hdropped
    exact absurd (List.mem_append_left _ (mem_kept_erase.2 ⟨hstays, hother⟩)) hdropped
  · rw [kept_append, List.mem_append, not_or] at hdropped
    have hdropped := hdropped.1
    refine ⟨hmissing, ?_⟩
    unfold makeRoom at hdropped
    split at hdropped
    · exact absurd hstays hdropped
    · rename_i hfull
      refine ⟨Nat.le_of_not_lt hfull, ?_⟩
      split at hdropped
      · rename_i m hleast
        obtain ⟨hm, hle⟩ := leastUsed?_eq_some hleast
        have hkey : e.key = m.key := by
          by_contra hne
          exact hdropped (mem_kept_erase.2 ⟨hstays, hne⟩)
        have hm' : m ∈ c.entries := (List.dropWhile_sublist _).subset hm
        rw [keys, kept, List.map_map] at hdistinct
        rwa [List.inj_on_of_nodup_map hdistinct he hm' hkey]
      · exact absurd hstays hdropped

/-! ## Numbers of uses -/

/-- The number of every entry is that of the last use of its key. -/
structure Numbered (uses : List Text) (c : Cache α) : Prop where
  next : c.nextUse = uses.length
  last : ∀ e ∈ c.entries, LastUse uses e.key e.used

namespace Numbered

/-- Dropping entries leaves the numbers right. -/
lemma of_subset (h : c.Numbered uses) (hnext : c'.nextUse = c.nextUse)
    (hsub : c'.entries ⊆ c.entries) : c'.Numbered uses :=
  ⟨hnext.trans h.next, fun e he => h.last e (hsub he)⟩

/-- A use gives an entry the greatest number so far. -/
lemma touch (h : c.Numbered uses) (key : Text) : (c.touch key).Numbered (uses ++ [key]) := by
  constructor
  · simp [Cache.touch, h.next]
  · intro e' he'
    obtain ⟨e, he, rfl⟩ := List.mem_map.1 he'
    by_cases hkey : e.key = key
    · rw [if_pos (beq_iff_eq.2 hkey), h.next, ← hkey]
      exact LastUse.concat_self uses e.key
    · rw [if_neg (mt beq_iff_eq.1 hkey)]
      exact (h.last e he).concat (Ne.symm hkey)

/-- A new entry gets the next number. -/
lemma append (h : c.Numbered uses) (hnew : key ∉ c.keys) :
    (c.append now key value).Numbered (uses ++ [key]) := by
  constructor
  · simp [Cache.append, h.next]
  · intro e he
    rcases List.mem_append.1 he with hold | hlast
    · apply (h.last e hold).concat
      rintro rfl
      exact hnew (mem_keys hold)
    · obtain rfl := List.mem_singleton.1 hlast
      rw [h.next]
      exact LastUse.concat_self uses key

/-- Expiry leaves the numbers right. -/
lemma expire (h : c.Numbered uses) (now : Rat) : (c.expire now).Numbered uses :=
  h.of_subset rfl (List.dropWhile_sublist _).subset

/-- Erasing a key leaves the numbers right. -/
lemma erase (h : c.Numbered uses) (key : Text) : (c.erase key).Numbered uses :=
  h.of_subset rfl List.filter_sublist.subset

/-- Making room leaves the numbers right. -/
lemma makeRoom (h : c.Numbered uses) : c.makeRoom.Numbered uses := by
  unfold Cache.makeRoom
  split
  · exact h
  · split
    · exact h.erase _
    · exact h

/-- A set is a use, with the next number. -/
lemma set (h : c.Numbered uses) (hset : c.set now key value = .ok c') :
    c'.Numbered (uses ++ [key]) := by
  obtain ⟨-, rfl⟩ | ⟨hmissing, rfl⟩ := set_cases hset
  · apply ((h.expire now).erase key).append
    intro hmem
    obtain ⟨k, hk, hkey⟩ := List.mem_map.1 hmem
    exact (mem_kept_erase.1 hk).2 hkey
  · apply (h.expire now).makeRoom.append
    exact fun hmem => hmissing (((kept_makeRoom _).map Kept.key).subset hmem)

/-- If the entry that was used least recently has to go for a new key, at least as many keys as
there is room for have been used since its own last use, the new one included. -/
lemma capacity_le_card (h : c.Numbered uses) (hdistinct : c.keys.Nodup) (hnew : key ∉ c.keys)
    (hfull : c.capacity ≤ c.entries.length) (he : e ∈ c.entries) (hother : e.key ≠ key)
    (hleast : ∀ other ∈ c.entries, e.used ≤ other.used) :
    c.capacity ≤ (usedSince e.key (uses ++ [key])).card := by
  rw [usedSince_concat (Ne.symm hother)]
  have hsub : insert key (c.keys.toFinset.erase e.key) ⊆ insert key (usedSince e.key uses) := by
    apply Finset.insert_subset_insert
    intro key' hkey'
    obtain ⟨hne, hmem⟩ := Finset.mem_erase.1 hkey'
    obtain ⟨k, hk, rfl⟩ := List.mem_map.1 (List.mem_toFinset.1 hmem)
    obtain ⟨e', he', rfl⟩ := List.mem_map.1 hk
    exact (h.last e he).mem_usedSince (h.last e' he') (hleast e' he') hne
  have hcard : (insert key (c.keys.toFinset.erase e.key)).card = c.entries.length := by
    have hmem : e.key ∈ c.keys.toFinset := List.mem_toFinset.2 (mem_keys he)
    rw [Finset.card_insert_of_notMem, Finset.card_erase_add_one hmem,
      List.toFinset_card_of_nodup hdistinct, Cache.keys, Cache.kept, List.length_map,
      List.length_map]
    exact fun hmem => hnew (List.mem_toFinset.1 (Finset.mem_of_mem_erase hmem))
  calc c.capacity ≤ c.entries.length := hfull
    _ = (insert key (c.keys.toFinset.erase e.key)).card := hcard.symm
    _ ≤ (insert key (usedSince e.key uses)).card := Finset.card_le_card hsub

end Numbered

/-- A living entry that a set drops has not been used since as many keys were used as there is room
for. -/
lemma capacity_le_card_of_set (hset : c.set now key value = .ok c') (hdistinct : c.keys.Nodup)
    (h : c.Numbered uses) (he : e ∈ c.entries) (hlives : now < e.setAt + c.ttl)
    (hother : e.key ≠ key) (hdropped : e.kept ∉ c'.kept) :
    c.capacity ≤ (usedSince e.key (uses ++ [key])).card := by
  obtain ⟨hnew, hfull, hleast⟩ := of_notMem_kept_set hset hdistinct he hlives hother hdropped
  exact (h.expire now).capacity_le_card (nodup_keys_of_sublist hdistinct (c.kept_expire now)) hnew
    hfull (mem_expire he hlives) hother hleast

/-! ## Times -/

/-- Where entries stand in the order of their times, expiry drops all that is dead. -/
lemma kept_expire_eq_filter (hsorted : c.kept.Pairwise fun k k' => k.setAt ≤ k'.setAt) (now : Rat) :
    (c.expire now).kept = c.kept.filter fun k => now < k.setAt + c.ttl := by
  have hdrop : ∀ entries : List (Entry α),
      (entries.map Entry.kept).Pairwise (fun k k' => k.setAt ≤ k'.setAt) →
      (entries.dropWhile fun e => !c.isAlive now e) = entries.filter (c.isAlive now) := by
    intro entries hentries
    induction entries with
    | nil => rfl
    | cons e rest ih =>
      obtain ⟨hfirst, hrest⟩ := List.pairwise_cons.1 hentries
      by_cases hlives : c.isAlive now e = true
      · -- what comes after an entry that lives was set later, and lives
        have hall : ∀ e' ∈ e :: rest, c.isAlive now e' = true := by
          intro e' he'
          rcases List.mem_cons.1 he' with rfl | he'
          · exact hlives
          · have hle := hfirst e'.kept (List.mem_map_of_mem he')
            simp only [isAlive, decide_eq_true_eq] at hlives ⊢
            exact lt_of_lt_of_le hlives (add_le_add_left hle c.ttl)
        rw [List.dropWhile_cons_of_neg (by simp [hlives]), List.filter_eq_self.2 hall]
      · rw [List.dropWhile_cons_of_pos (by simp [hlives]), List.filter_cons_of_neg hlives, ih hrest]
  rw [kept, expire, hdrop c.entries hsorted, kept, List.filter_map]
  rfl

end Cache

/-- Whether a command sets a key. -/
def CacheCommand.Sets {α : Type} (key : Text) : CacheCommand α → Prop
  | .set x _ => x.lower = key
  | _ => False

instance {α : Type} (key : Text) : (command : CacheCommand α) → Decidable (command.Sets key)
  | .set x _ => inferInstanceAs (Decidable (x.lower = key))
  | .get _ | .delete _ | .clear | .size => inferInstanceAs (Decidable False)

/-- Only one thing was set last for a key. -/
lemma SetLast.unique {α : Type} {history : CacheHistory α} {k k' : Kept α} (h : SetLast history k)
    (h' : SetLast history k') (hkey : k.key = k'.key) : k = k' := by
  induction history using List.reverseRecOn with
  | nil =>
    obtain ⟨before, x, after, hhistory, -⟩ := h
    simp at hhistory
  | append_singleton history step ih =>
    rcases h.of_concat with ⟨h, hkeeps⟩ | ⟨x, hstep, hx⟩
    · rcases h'.of_concat with ⟨h', -⟩ | ⟨x', hstep, hx'⟩
      · exact ih h h'
      · rw [hstep] at hkeeps
        exact absurd (hx'.trans hkey.symm) hkeeps
    · rcases h'.of_concat with ⟨-, hkeeps⟩ | ⟨x', hstep', -⟩
      · rw [hstep] at hkeeps
        exact absurd (hx.trans hkey) hkeeps
      · rw [hstep] at hstep'
        obtain ⟨key, value, t⟩ := k
        obtain ⟨key', value', t'⟩ := k'
        obtain rfl : key = key' := hkey
        cases hstep'
        rfl

namespace ResultCache

variable {α : Type} {c : ResultCache α} {history : CacheHistory α} {now : Rat}

/-- The key that a command uses: a set uses its key, and a get only one that lives. -/
def used? (c : ResultCache α) (now : Rat) : CacheCommand α → Option Text
  | .set x _ => some x.lower
  | .get x => (c.cache.living? now x.lower).map fun _ => x.lower
  | .delete _ | .clear | .size => none

/-- The keys that commands use, first to last. -/
def uses (c : ResultCache α) : CacheHistory α → List Text
  | [] => []
  | step :: rest => (c.used? step.1 step.2).toList ++ (c.after step.1 step.2).uses rest

/-- The last step of a history adds at most one use. -/
lemma uses_concat (c : ResultCache α) (history : CacheHistory α) (step : Rat × CacheCommand α) :
    c.uses (history ++ [step]) =
      c.uses history ++ ((c.run history).used? step.1 step.2).toList := by
  induction history generalizing c with
  | nil => simp [uses, run]
  | cons first rest ih => simp [uses, run, ih]

/-! ## Room -/

/-- A cache with room has room after any run. -/
lemma room_run (name : Text) {capacity : Nat} (hroom : 0 < capacity) (ttl : Rat)
    (history : CacheHistory α) :
    0 < (run ⟨name, .empty capacity ttl⟩ history).cache.capacity := by
  rw [(limits_run _ history).1]
  exact hroom

/-- No command makes a cache outgrow its room. -/
lemma length_after (hroom : 0 < c.cache.capacity)
    (hfits : c.cache.entries.length ≤ c.cache.capacity) (now : Rat) (command : CacheCommand α) :
    (c.after now command).cache.entries.length ≤ c.cache.capacity := by
  have hkept : ∀ c' : Cache α, c'.kept.Sublist c.cache.kept →
      c'.entries.length ≤ c.cache.capacity := by
    intro c' hsub
    have hlength := hsub.length_le
    rw [Cache.kept, Cache.kept, List.length_map, List.length_map] at hlength
    exact hlength.trans hfits
  cases command with
  | get x =>
    apply hkept
    rw [after, get, c.cache.kept_get now (keyOf x)]
  | set x value =>
    simp only [after]
    split
    · rename_i hset
      exact Cache.length_set_le (cache_of_set_eq_ok hset) hroom hfits
    · exact hfits
  | delete x => exact hkept _ (c.cache.kept_delete now x.lower)
  | clear => exact Nat.zero_le _
  | size => exact hkept _ (c.cache.kept_expire now)

/-- Whatever the clock does, there are not more entries than there is room for, no key is kept
twice, and every key was set. -/
lemma run_bounded (name : Text) {capacity : Nat} (hroom : 0 < capacity) (ttl : Rat)
    (history : CacheHistory α) :
    (run ⟨name, .empty capacity ttl⟩ history).cache.entries.length ≤ capacity ∧
      (run ⟨name, .empty capacity ttl⟩ history).cache.keys.Nodup ∧
      (run ⟨name, .empty capacity ttl⟩ history).cache.Holds
        fun key _ => ∃ step ∈ history, step.2.Sets key := by
  induction history using List.reverseRecOn with
  | nil => exact ⟨Nat.zero_le _, List.nodup_nil, fun e he => by cases he⟩
  | append_singleton history step ih =>
    obtain ⟨hfits, hdistinct, hset⟩ := ih
    have hcapacity : (run ⟨name, .empty capacity ttl⟩ history).cache.capacity = capacity :=
      (limits_run _ history).1
    rw [run_concat]
    refine ⟨?_, nodup_keys_after hdistinct _ _, ?_⟩
    · have hlength := length_after (room_run name hroom ttl history) (by omega) step.1 step.2
      omega
    · apply holds_after
      · intro e he
        obtain ⟨earlier, hearlier, hsets⟩ := hset e he
        exact ⟨earlier, List.mem_append_left _ hearlier, hsets⟩
      · intro x value hcommand
        refine ⟨step, List.mem_append_right _ (List.mem_singleton_self _), ?_⟩
        rw [hcommand]
        rfl

/-! ## Recency -/

section Recency

variable {used : List Text}

/-- Every command counts its use. -/
lemma numbered_after (h : c.cache.Numbered used) (hroom : 0 < c.cache.capacity) (now : Rat)
    (command : CacheCommand α) :
    (c.after now command).cache.Numbered (used ++ (c.used? now command).toList) := by
  cases command with
  | get x =>
    simp only [after, get, Cache.get, used?, keyOf]
    cases c.cache.living? now x.lower with
    | none => simpa using h
    | some e => exact h.touch x.lower
  | set x value =>
    simp only [after]
    split
    · rename_i hset
      exact h.set (cache_of_set_eq_ok hset)
    · rename_i hset
      exact absurd (capacity_of_set_eq_error hset) (Nat.ne_of_gt hroom)
  | delete x =>
    simp only [after, delete, Cache.delete, used?, Option.toList_none, List.append_nil]
    split
    · exact h.erase _
    · exact h
  | clear =>
    rw [used?, Option.toList_none, List.append_nil]
    exact h.of_subset rfl (List.nil_subset _)
  | size =>
    rw [used?, Option.toList_none, List.append_nil]
    exact h.expire now

/-- What was set last and lives is kept, unless as many other keys as there is room for have been
used since its own last use. -/
def Spares (used : List Text) (history : CacheHistory α) (now : Rat) (c : ResultCache α) : Prop :=
  ∀ k, SetLast history k → now < k.setAt + c.cache.ttl →
    k ∈ c.cache.kept ∨ c.cache.capacity ≤ (usedSince k.key used).card

/-- As time goes by, less lives, and that is still spared. -/
lemma Spares.later (h : c.Spares used history now) {t : Rat} (hle : now ≤ t) :
    c.Spares used history t :=
  fun k hlast hlives => h k hlast (lt_of_le_of_lt hle hlives)

/-- Uses of other keys do not bring a key back. -/
lemma card_usedSince_le {key : Text} {other : Option Text} (h : other ≠ some key) :
    (usedSince key used).card ≤ (usedSince key (used ++ other.toList)).card := by
  cases other with
  | none => simp
  | some other =>
    have hne : other ≠ key := fun heq => h (congrArg some heq)
    rw [Option.toList_some, usedSince_concat hne]
    exact Finset.card_le_card (Finset.subset_insert _ _)

/-- A key that is used without being written is kept for what was set last. -/
lemma mem_kept_of_used (haccounts : c.Accounts history now) {command : CacheCommand α} {k : Kept α}
    (hlast : SetLast history k) (hwrites : ¬ command.Writes k.key)
    (hused : c.used? now command = some k.key) : k ∈ c.cache.kept := by
  cases command with
  | get x =>
    obtain ⟨e, hliving, hkey⟩ := Option.map_eq_some_iff.1 hused
    obtain ⟨he, hfound, hlives⟩ := Cache.living?_eq_some hliving
    have hkept : e.kept ∈ c.cache.kept := List.mem_map_of_mem he
    have hlast' : SetLast history e.kept := haccounts.living _ hkept hlives
    rwa [hlast.unique hlast' (hkey.symm.trans hfound.symm)]
  | set x value => exact absurd (Option.some.inj hused) hwrites
  | delete x => cases hused
  | clear => cases hused
  | size => cases hused

/-- No command but a set drops what lives and is not written. -/
lemma mem_kept_after_or_set {command : CacheCommand α} {k : Kept α} (hk : k ∈ c.cache.kept)
    (hlives : now < k.setAt + c.cache.ttl) (hwrites : ¬ command.Writes k.key) :
    k ∈ (c.after now command).cache.kept ∨ ∃ x value, command = .set x value := by
  cases command with
  | get x => exact .inl ((c.cache.kept_get now x.lower).symm ▸ hk)
  | set x value => exact .inr ⟨x, value, rfl⟩
  | delete x => exact .inl (Cache.mem_kept_delete hk fun hkey => hwrites hkey.symm)
  | clear => exact absurd trivial hwrites
  | size => exact .inl (Cache.mem_kept_expire hk hlives)

/-- One step spares what lives and was used recently enough. -/
lemma Spares.after (h : c.Spares used history now) (haccounts : c.Accounts history now)
    (hnumbered : c.cache.Numbered used) (hroom : 0 < c.cache.capacity)
    (command : CacheCommand α) :
    (c.after now command).Spares (used ++ (c.used? now command).toList)
      (history ++ [(now, command)]) now := by
  intro k hlast hlives
  obtain ⟨hcapacity, httl⟩ := c.limits_after now command
  rw [httl] at hlives
  rw [hcapacity]
  rcases hlast.of_concat with ⟨hlast, hwrites⟩ | ⟨x, hstep, hx⟩
  · by_cases hk : k ∈ c.cache.kept
    · rcases mem_kept_after_or_set hk hlives hwrites with hk' | ⟨x, value, rfl⟩
      · exact .inl hk'
      · -- only a set makes room
        have hother : k.key ≠ x.lower := fun hkey => hwrites hkey.symm
        obtain ⟨e, he, rfl⟩ := List.mem_map.1 hk
        simp only [ResultCache.after]
        split
        · rename_i hset
          rw [or_iff_not_imp_left]
          exact Cache.capacity_le_card_of_set (cache_of_set_eq_ok hset) haccounts.distinct hnumbered
            he hlives hother
        · exact .inl hk
    · -- what has been dropped was not used again
      have hused : c.used? now command ≠ some k.key :=
        fun hused => hk (mem_kept_of_used haccounts hlast hwrites hused)
      rcases h k hlast hlives with hk' | hcard
      · exact absurd hk' hk
      · exact .inr (hcard.trans (card_usedSince_le hused))
  · left
    obtain ⟨key, value, t⟩ := k
    cases hstep
    obtain rfl : x.lower = key := hx
    simp only [ResultCache.after]
    split
    · rename_i hset
      exact Cache.mem_kept_set_self (cache_of_set_eq_ok hset)
    · rename_i hset
      exact absurd (capacity_of_set_eq_error hset) (Nat.ne_of_gt hroom)

/-- Numbers are those of last uses after any run. -/
lemma numbered_run (name : Text) {capacity : Nat} (hroom : 0 < capacity) (ttl : Rat)
    (history : CacheHistory α) :
    (run ⟨name, .empty capacity ttl⟩ history).cache.Numbered
      (uses ⟨name, .empty capacity ttl⟩ history) := by
  induction history using List.reverseRecOn with
  | nil => exact ⟨rfl, fun e he => by cases he⟩
  | append_singleton history step ih =>
    rw [run_concat, uses_concat]
    exact numbered_after ih (room_run name hroom ttl history) step.1 step.2

/-- A run from an empty cache spares what lives and was used recently enough. -/
lemma spares_run (name : Text) {capacity : Nat} (hroom : 0 < capacity) (ttl : Rat)
    (history : CacheHistory α) {now : Rat}
    (hclock : (history.map Prod.fst ++ [now]).Pairwise (· ≤ ·)) :
    (run ⟨name, .empty capacity ttl⟩ history).Spares
      (uses ⟨name, .empty capacity ttl⟩ history) history now := by
  induction history using List.reverseRecOn generalizing now with
  | nil =>
    rintro k ⟨before, x, after, hhistory, -⟩
    simp at hhistory
  | append_singleton history step ih =>
    rw [List.map_append, List.pairwise_append] at hclock
    obtain ⟨hbefore, -, hle⟩ := hclock
    rw [run_concat, uses_concat]
    apply Spares.later
    · exact (ih hbefore).after (accounts_run name hroom ttl history hbefore)
        (numbered_run name hroom ttl history) (room_run name hroom ttl history) step.2
    · exact hle _ (by simp) _ (by simp)

end Recency

/-! ## Times -/

/-- What is kept stands in the order of its times, and each time is that of the last set of the
key. -/
structure Dated (history : CacheHistory α) (c : ResultCache α) : Prop where
  sorted : c.cache.kept.Pairwise fun k k' => k.setAt ≤ k'.setAt
  isSet : ∀ k ∈ c.cache.kept, ∃ step ∈ history, step.2.Sets k.key ∧ step.1 = k.setAt
  isLast : ∀ k ∈ c.cache.kept, ∀ step ∈ history, step.2.Sets k.key → step.1 ≤ k.setAt

namespace Dated

/-- A step that drops and sets nothing leaves times as they should be. -/
lemma of_sublist (h : c.Dated history) {c' : ResultCache α}
    (hsub : c'.cache.kept.Sublist c.cache.kept) {step : Rat × CacheCommand α}
    (hstep : ∀ key, ¬ step.2.Sets key) : c'.Dated (history ++ [step]) where
  sorted := h.sorted.sublist hsub
  isSet := by
    intro k hk
    obtain ⟨earlier, hearlier, hsets⟩ := h.isSet k (hsub.subset hk)
    exact ⟨earlier, List.mem_append_left _ hearlier, hsets⟩
  isLast := by
    intro k hk other hother hsets
    rcases List.mem_append.1 hother with hearlier | hlast
    · exact h.isLast k (hsub.subset hk) other hearlier hsets
    · obtain rfl := List.mem_singleton.1 hlast
      exact absurd hsets (hstep k.key)

/-- A set comes last, with a time that is not before the others. -/
lemma set (h : c.Dated history) (hclock : ∀ step ∈ history, step.1 ≤ now) {c' : ResultCache α}
    {x : Text} {value : Option α} (hset : c.cache.set now x.lower value = .ok c'.cache) :
    c'.Dated (history ++ [(now, .set x value)]) := by
  obtain ⟨others, hsub, hothers, hkept⟩ := Cache.kept_set hset
  constructor
  · rw [hkept, List.pairwise_append]
    refine ⟨h.sorted.sublist hsub, List.pairwise_singleton _ _, ?_⟩
    intro k hk k' hk'
    obtain ⟨earlier, hearlier, -, htime⟩ := h.isSet k (hsub.subset hk)
    obtain rfl := List.mem_singleton.1 hk'
    exact htime ▸ hclock earlier hearlier
  · intro k hk
    rw [hkept, List.mem_append, List.mem_singleton] at hk
    rcases hk with hk | rfl
    · obtain ⟨earlier, hearlier, hsets⟩ := h.isSet k (hsub.subset hk)
      exact ⟨earlier, List.mem_append_left _ hearlier, hsets⟩
    · exact ⟨_, List.mem_append_right _ (List.mem_singleton_self _), rfl, rfl⟩
  · intro k hk step hstep hsets
    rw [hkept, List.mem_append, List.mem_singleton] at hk
    rw [List.mem_append, List.mem_singleton] at hstep
    rcases hk with hk | rfl
    · rcases hstep with hearlier | rfl
      · exact h.isLast k (hsub.subset hk) step hearlier hsets
      · exact absurd hsets.symm (hothers k hk)
    · rcases hstep with hearlier | rfl
      · exact hclock step hearlier
      · exact le_refl _

/-- One step leaves times as they should be. -/
lemma after (h : c.Dated history) (hclock : ∀ step ∈ history, step.1 ≤ now)
    (hroom : 0 < c.cache.capacity) (command : CacheCommand α) :
    (c.after now command).Dated (history ++ [(now, command)]) := by
  cases command with
  | get x =>
    apply h.of_sublist _ fun _ => id
    rw [ResultCache.after, ResultCache.get, c.cache.kept_get now (keyOf x)]
  | set x value =>
    simp only [ResultCache.after]
    split
    · rename_i hset
      exact h.set hclock (cache_of_set_eq_ok hset)
    · rename_i hset
      exact absurd (capacity_of_set_eq_error hset) (Nat.ne_of_gt hroom)
  | delete x => exact h.of_sublist (c.cache.kept_delete now x.lower) fun _ => id
  | clear =>
    apply h.of_sublist _ fun _ => id
    exact List.nil_sublist _
  | size => exact h.of_sublist (c.cache.kept_expire now) fun _ => id

/-- A kept entry lives if its key was set less than a lifetime ago. -/
lemma lives_iff (h : c.Dated history) {k : Kept α} (hk : k ∈ c.cache.kept) (ttl : Rat) :
    (∃ step ∈ history, step.2.Sets k.key ∧ now < step.1 + ttl) ↔ now < k.setAt + ttl := by
  constructor
  · rintro ⟨step, hstep, hsets, hlives⟩
    exact lt_of_lt_of_le hlives (add_le_add_left (h.isLast k hk step hstep hsets) ttl)
  · intro hlives
    obtain ⟨step, hstep, hsets, htime⟩ := h.isSet k hk
    exact ⟨step, hstep, hsets, htime.symm ▸ hlives⟩

/-- A cache counts the keys whose last set is recent enough. -/
lemma size_eq (h : c.Dated history) (now : Rat) :
    (c.size now).1 = (c.cache.keys.filter fun key =>
      ∃ step ∈ history, step.2.Sets key ∧ now < step.1 + c.cache.ttl).length := by
  have hkept : (c.size now).1 = (c.cache.expire now).kept.length := by
    rw [Cache.kept, List.length_map]
    rfl
  rw [hkept, Cache.kept_expire_eq_filter h.sorted, Cache.keys, List.filter_map, List.length_map]
  congr 1
  apply List.filter_congr
  intro k hk
  exact decide_eq_decide.2 (h.lives_iff hk _).symm

end Dated

/-- Times are as they should be after any run with a clock that does not go back. -/
lemma dated_run (name : Text) {capacity : Nat} (hroom : 0 < capacity) (ttl : Rat)
    (history : CacheHistory α) (hclock : (history.map Prod.fst).Pairwise (· ≤ ·)) :
    (run ⟨name, .empty capacity ttl⟩ history).Dated history := by
  induction history using List.reverseRecOn with
  | nil =>
    refine ⟨List.Pairwise.nil, ?_, ?_⟩
    · intro k hk
      cases hk
    · intro k hk
      cases hk
  | append_singleton history step ih =>
    rw [List.map_append, List.pairwise_append] at hclock
    obtain ⟨hbefore, -, hle⟩ := hclock
    rw [run_concat]
    apply (ih hbefore).after _ (room_run name hroom ttl history)
    intro earlier hearlier
    exact hle _ (List.mem_map_of_mem hearlier) _ (by simp)

/-- A cache never has more entries than it has room for, and keeps no key twice and only keys that
were set, whatever the clock does. As long as the clock does not go back, what was set last for a
key is found until it dies, unless as many other keys as there is room for have been used since the
last use of the key; and the size is the number of keys that are still stored and were set less than
a lifetime ago. -/
theorem run_retention (name : Text) {capacity : Nat} (hroom : 0 < capacity) (ttl : Rat)
    (history : CacheHistory α) :
    (run ⟨name, .empty capacity ttl⟩ history).cache.entries.length ≤ capacity ∧
      (run ⟨name, .empty capacity ttl⟩ history).cache.keys.Nodup ∧
      (∀ key ∈ (run ⟨name, .empty capacity ttl⟩ history).cache.keys,
        ∃ step ∈ history, step.2.Sets key) ∧
      ∀ now, (history.map Prod.fst ++ [now]).Pairwise (· ≤ ·) →
        (∀ x v t, SetLast history ⟨x.lower, some v, t⟩ → now < t + ttl →
          (usedSince x.lower (uses ⟨name, .empty capacity ttl⟩ history)).card < capacity →
          ((run ⟨name, .empty capacity ttl⟩ history).get now x).1 = some v) ∧
        ((run ⟨name, .empty capacity ttl⟩ history).size now).1 =
          ((run ⟨name, .empty capacity ttl⟩ history).cache.keys.filter fun key =>
            ∃ step ∈ history, step.2.Sets key ∧ now < step.1 + ttl).length := by
  obtain ⟨hfits, hdistinct, hset⟩ := run_bounded name hroom ttl history
  obtain ⟨hcapacity, httl⟩ := limits_run (⟨name, .empty capacity ttl⟩ : ResultCache α) history
  refine ⟨hfits, hdistinct, ?_, ?_⟩
  · intro key hkey
    obtain ⟨k, hk, rfl⟩ := List.mem_map.1 hkey
    exact Cache.holds_iff.1 hset k hk
  · intro now hclock
    constructor
    · intro x v t hlast hlives hcard
      have hlives' : now < t + (run ⟨name, .empty capacity ttl⟩ history).cache.ttl :=
        lt_of_lt_of_eq hlives (congrArg (t + ·) httl.symm)
      rcases spares_run name hroom ttl history hclock _ hlast hlives' with hk | hdropped
      · exact (Cache.get_eq_some_iff hdistinct).2 ⟨t, hk, hlives'⟩
      · rw [hcapacity] at hdropped
        exact absurd hdropped (Nat.not_le_of_lt hcard)
    · have hdated := dated_run name hroom ttl history (List.pairwise_append.1 hclock).1
      have hsize := hdated.size_eq now
      rwa [httl] at hsize

/-- Three addresses in a cache for two; the first is used again before the third comes. -/
def threeAddresses : CacheHistory Nat :=
  [(0, .set "0xAB" (some 1)), (1, .set "0xCD" (some 2)), (2, .get "0xab"),
   (3, .set "0xEF" (some 3))]

/-- The address that is used again is retained, although it was set first, and the other goes. -/
theorem run_retention_threeAddresses :
    ((run ⟨"c", .empty 2 10⟩ threeAddresses).get 9 "0xAb").1 = some 1 ∧
      ((run ⟨"c", .empty 2 10⟩ threeAddresses).get 9 "0xCD").1 = none ∧
      ((run ⟨"c", .empty 2 10⟩ threeAddresses).size 9).1 = 2 ∧
      ((run ⟨"c", .empty 2 10⟩ threeAddresses).size 10).1 = 1 := by
  obtain ⟨-, -, -, hclock⟩ := run_retention "c" (by decide : 0 < 2) 10 threeAddresses
  obtain ⟨hget, hsize⟩ := hclock 9 (by decide +kernel)
  have hlast : SetLast threeAddresses ⟨Text.lower "0xAb", some 1, 0⟩ :=
    ⟨[], "0xAB", threeAddresses.drop 1, rfl, by decide +kernel, by decide +kernel⟩
  have hcard :
      (usedSince (Text.lower "0xAb") (uses ⟨"c", .empty 2 10⟩ threeAddresses)).card < 2 := by
    decide +kernel
  refine ⟨hget "0xAb" 1 0 hlast (by decide +kernel) hcard, by decide +kernel, ?_, ?_⟩
  · rw [hsize]
    decide +kernel
  · rw [(hclock 10 (by decide +kernel)).2]
    decide +kernel

end ResultCache

end ContractAudit
