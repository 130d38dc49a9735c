import ContractAudit.Cache.Results
import Mathlib.Data.Finset.Card
import Mathlib.Data.List.Nodup
import Mathlib.Data.List.TakeWhile
import Mathlib.Tactic.Lemma

/-!
# Entries of a cache

A cache is seen through `Cache.kept`: what it keeps for which key since when. Uses do not show
there, so a get changes nothing. A set puts the key last and may drop others (`Cache.kept_set`), but
none that lives if there is room for all keys (`Cache.mem_kept_set_of_card`). As long as no key is
kept twice, a get finds exactly the living value that is kept for the key (`Cache.get_eq_some_iff`).

What is true of the key and the value of every entry (`Cache.Holds`) stays true under every
operation, as long as it is true of what is set. Nothing else can be found in the cache.
-/

namespace ContractAudit

/-- What a cache keeps for a key. -/
structure Kept (α : Type) where
  key : Text
  value : Option α
  setAt : Rat

/-- What an entry keeps, without its uses. -/
def Entry.kept {α : Type} (e : Entry α) : Kept α :=
  ⟨e.key, e.value, e.setAt⟩

namespace Cache

variable {α : Type} {c c' : Cache α} {now : Rat} {key : Text} {value : Option α} {k : Kept α}

/-- What is kept, in the order in which it was set. -/
def kept (c : Cache α) : List (Kept α) :=
  c.entries.map Entry.kept

/-- The keys of what is kept. -/
def keys (c : Cache α) : List Text :=
  c.kept.map Kept.key

/-! ## What each operation keeps -/

/-- A get changes nothing that is kept. -/
lemma kept_get (c : Cache α) (now : Rat) (key : Text) : (c.get now key).2.kept = c.kept := by
  unfold get
  split
  · simp only [kept, touch, List.map_map]
    apply List.map_congr_left
    intro e _
    simp only [Function.comp_apply]
    split
    · rfl
    · rfl
  · rfl

/-- Expiry only drops. -/
lemma kept_expire (c : Cache α) (now : Rat) : (c.expire now).kept.Sublist c.kept :=
  (List.dropWhile_sublist _).map _

/-- Expiry stops before it comes to something that lives. -/
lemma mem_expire {e : Entry α} (he : e ∈ c.entries) (hlives : now < e.setAt + c.ttl) :
    e ∈ (c.expire now).entries := by
  rw [← List.takeWhile_append_dropWhile (p := fun e => !c.isAlive now e) (l := c.entries)] at he
  rcases List.mem_append.1 he with hdropped | hstays
  · have hdead := List.mem_takeWhile_imp hdropped
    simp only [isAlive, Bool.not_eq_true', decide_eq_false_iff_not] at hdead
    exact absurd hlives hdead
  · exact hstays

/-- Expiry drops nothing that lives. -/
lemma mem_kept_expire (hk : k ∈ c.kept) (hlives : now < k.setAt + c.ttl) :
    k ∈ (c.expire now).kept := by
  obtain ⟨e, he, rfl⟩ := List.mem_map.1 hk
  exact List.mem_map_of_mem (mem_expire he hlives)

/-- Erasing a key drops what is kept for it and nothing else. -/
lemma kept_erase (c : Cache α) (key : Text) :
    (c.erase key).kept = c.kept.filter fun k => k.key != key := by
  rw [kept, kept, List.filter_map]
  rfl

/-- What remains when a key is erased. -/
lemma mem_kept_erase : k ∈ (c.erase key).kept ↔ k ∈ c.kept ∧ k.key ≠ key := by
  rw [kept_erase, List.mem_filter, bne_iff_ne]

/-- Making room only drops. -/
lemma kept_makeRoom (c : Cache α) : c.makeRoom.kept.Sublist c.kept := by
  unfold makeRoom
  split
  · exact List.Sublist.refl _
  · split
    · rw [kept_erase]
      exact List.filter_sublist
    · exact List.Sublist.refl _

/-- A new entry comes last. -/
lemma kept_append (c : Cache α) (now : Rat) (key : Text) (value : Option α) :
    (c.append now key value).kept = c.kept ++ [⟨key, value, now⟩] :=
  List.map_append

/-- No entry is found exactly for the keys that are not kept. -/
lemma find?_eq_none : c.find? key = none ↔ key ∉ c.keys := by
  simp [find?, keys, kept, Entry.kept]

/-- What a set that is not refused does. -/
lemma set_cases (hset : c.set now key value = .ok c') :
    (key ∈ (c.expire now).keys ∧ c' = ((c.expire now).erase key).append now key value) ∨
      (key ∉ (c.expire now).keys ∧ c' = (c.expire now).makeRoom.append now key value) := by
  simp only [set] at hset
  split at hset
  · cases hset
  · split at hset
    · rename_i hstored
      rw [Option.isSome_iff_ne_none, ne_eq, find?_eq_none, not_not] at hstored
      exact .inl ⟨hstored, (Except.ok.inj hset).symm⟩
    · rename_i hmissing
      rw [Option.isSome_iff_ne_none, not_not, find?_eq_none] at hmissing
      exact .inr ⟨hmissing, (Except.ok.inj hset).symm⟩

/-- A set is refused only where there is never room. -/
lemma capacity_of_set_eq_error {e : CacheError} (hset : c.set now key value = .error e) :
    c.capacity = 0 := by
  simp only [set] at hset
  split at hset
  · rename_i hzero
    simpa [expire] using hzero
  · split at hset
    · cases hset
    · cases hset

/-- A set keeps the value last, and of what was kept for other keys a part in the same order. -/
lemma kept_set (hset : c.set now key value = .ok c') :
    ∃ others : List (Kept α), others.Sublist c.kept ∧ (∀ k ∈ others, k.key ≠ key) ∧
      c'.kept = others ++ [⟨key, value, now⟩] := by
  obtain ⟨-, rfl⟩ | ⟨hmissing, rfl⟩ := set_cases hset
  · refine ⟨_, ?_, fun k hk => (mem_kept_erase.1 hk).2, kept_append _ _ _ _⟩
    rw [kept_erase]
    exact List.filter_sublist.trans (c.kept_expire now)
  · refine ⟨_, (kept_makeRoom _).trans (c.kept_expire now), ?_, kept_append _ _ _ _⟩
    intro k hk hkey
    exact hmissing (hkey ▸ List.mem_map_of_mem ((kept_makeRoom _).subset hk))

/-- What is set is kept. -/
lemma mem_kept_set_self (hset : c.set now key value = .ok c') : ⟨key, value, now⟩ ∈ c'.kept := by
  obtain ⟨others, -, -, hkept⟩ := kept_set hset
  rw [hkept]
  exact List.mem_append_right _ (List.mem_singleton_self _)

/-- After a set, nothing else is new. -/
lemma mem_or_eq_of_mem_kept_set (hset : c.set now key value = .ok c') (hk : k ∈ c'.kept) :
    (k ∈ c.kept ∧ k.key ≠ key) ∨ k = ⟨key, value, now⟩ := by
  obtain ⟨others, hsub, hothers, hkept⟩ := kept_set hset
  rw [hkept] at hk
  rcases List.mem_append.1 hk with hother | hnew
  · exact .inl ⟨hsub.subset hother, hothers k hother⟩
  · exact .inr (List.mem_singleton.1 hnew)

/-- Where a set has room for its key, all that lives stays. -/
lemma mem_kept_set (hset : c.set now key value = .ok c')
    (hroom : key ∉ (c.expire now).keys → (c.expire now).kept.length < c.capacity)
    (hk : k ∈ c.kept) (hother : k.key ≠ key) (hlives : now < k.setAt + c.ttl) : k ∈ c'.kept := by
  have hstays := mem_kept_expire hk hlives
  obtain ⟨-, rfl⟩ | ⟨hmissing, rfl⟩ := set_cases hset
  · rw [kept_append]
    exact List.mem_append_left _ (mem_kept_erase.2 ⟨hstays, hother⟩)
  · have hlength : (c.expire now).entries.length < (c.expire now).capacity := by
      have hlength := hroom hmissing
      rwa [kept, List.length_map] at hlength
    rw [kept_append, makeRoom, if_pos hlength]
    exact List.mem_append_left _ hstays

/-- A get changes neither the room nor the lifetime. -/
lemma limits_get (c : Cache α) (now : Rat) (key : Text) :
    (c.get now key).2.capacity = c.capacity ∧ (c.get now key).2.ttl = c.ttl := by
  unfold get
  split
  · exact ⟨rfl, rfl⟩
  · exact ⟨rfl, rfl⟩

/-- Making room changes neither the room nor the lifetime. -/
lemma limits_makeRoom (c : Cache α) :
    c.makeRoom.capacity = c.capacity ∧ c.makeRoom.ttl = c.ttl := by
  unfold makeRoom
  split
  · exact ⟨rfl, rfl⟩
  · split
    · exact ⟨rfl, rfl⟩
    · exact ⟨rfl, rfl⟩

/-- A set changes neither the room nor the lifetime. -/
lemma limits_set (hset : c.set now key value = .ok c') :
    c'.capacity = c.capacity ∧ c'.ttl = c.ttl := by
  obtain ⟨-, rfl⟩ | ⟨-, rfl⟩ := set_cases hset
  · exact ⟨rfl, rfl⟩
  · exact (c.expire now).limits_makeRoom

/-- A cache with room takes every key, and keeps its capacity. -/
lemma exists_set_eq_ok (h : 0 < c.capacity) (now : Rat) (key : Text) (value : Option α) :
    ∃ c', c.set now key value = .ok c' ∧ c'.capacity = c.capacity := by
  cases hset : c.set now key value with
  | error e => exact absurd (capacity_of_set_eq_error hset) (Nat.ne_of_gt h)
  | ok c' => exact ⟨c', rfl, (limits_set hset).1⟩

/-! ## What a get finds -/

/-- A living entry is an entry for the key, and it lives. -/
lemma living?_eq_some {e : Entry α} (hliving : c.living? now key = some e) :
    e ∈ c.entries ∧ e.key = key ∧ now < e.setAt + c.ttl := by
  obtain ⟨hfind, hlives⟩ := Option.filter_eq_some_iff.1 hliving
  refine ⟨List.mem_of_find?_eq_some hfind, ?_, of_decide_eq_true hlives⟩
  simpa using List.find?_some hfind

/-- If no key is kept twice, what lives is found by its key. -/
lemma living?_of_mem (hdistinct : c.keys.Nodup) {e : Entry α} (he : e ∈ c.entries)
    (hlives : now < e.setAt + c.ttl) : c.living? now e.key = some e := by
  have hfind : c.find? e.key = some e := by
    cases hfind : c.find? e.key with
    | none => exact absurd (List.mem_map_of_mem (List.mem_map_of_mem he)) (find?_eq_none.1 hfind)
    | some e' =>
      have hkey : e'.key = e.key := by simpa using List.find?_some hfind
      rw [keys, kept, List.map_map] at hdistinct
      rw [List.inj_on_of_nodup_map hdistinct (List.mem_of_find?_eq_some hfind) he hkey]
  exact Option.filter_eq_some_iff.2 ⟨hfind, decide_eq_true hlives⟩

/-- What is found is kept and lives. -/
lemma exists_kept_of_get {v : α} (hget : (c.get now key).1 = some v) :
    ∃ t, ⟨key, some v, t⟩ ∈ c.kept ∧ now < t + c.ttl := by
  unfold get at hget
  split at hget
  · rename_i e hliving
    obtain ⟨he, rfl, hlives⟩ := living?_eq_some hliving
    exact ⟨e.setAt, List.mem_map.2 ⟨e, he, congrArg (Kept.mk e.key · e.setAt) hget⟩, hlives⟩
  · cases hget

/-- If no key is kept twice, a get finds the living value that is kept for the key. -/
lemma get_eq_some_iff (hdistinct : c.keys.Nodup) {v : α} :
    (c.get now key).1 = some v ↔ ∃ t, ⟨key, some v, t⟩ ∈ c.kept ∧ now < t + c.ttl := by
  constructor
  · exact exists_kept_of_get
  · rintro ⟨t, hkept, hlives⟩
    obtain ⟨e, he, hmatch⟩ := List.mem_map.1 hkept
    obtain ⟨rfl, hvalue, rfl⟩ := Kept.mk.inj hmatch
    rw [get, living?_of_mem hdistinct he hlives]
    exact hvalue

/-- A delete says whether a get would have found something. -/
lemma delete_eq_isSome_get (c : Cache α) (now : Rat) (key : Text) :
    (c.delete now key).1 = (c.get now key).1.isSome := by
  unfold delete get
  split
  · rfl
  · rfl

/-- A delete only drops. -/
lemma kept_delete (c : Cache α) (now : Rat) (key : Text) :
    (c.delete now key).2.kept.Sublist c.kept := by
  unfold delete
  split
  · rw [kept_erase]
    exact List.filter_sublist
  · exact List.Sublist.refl _

/-- A delete drops nothing that is kept for other keys. -/
lemma mem_kept_delete (hk : k ∈ c.kept) (hother : k.key ≠ key) : k ∈ (c.delete now key).2.kept := by
  unfold delete
  split
  · exact mem_kept_erase.2 ⟨hk, hother⟩
  · exact hk

/-- What is still kept for a key after a delete is dead. -/
lemma dead_of_mem_kept_delete (hdistinct : c.keys.Nodup) (hk : k ∈ (c.delete now k.key).2.kept) :
    ¬ now < k.setAt + c.ttl := by
  unfold delete at hk
  split at hk
  · exact absurd rfl (mem_kept_erase.1 hk).2
  · rename_i hliving
    obtain ⟨e, he, rfl⟩ := List.mem_map.1 hk
    intro hlives
    have hfound : c.living? now e.kept.key = some e := living?_of_mem hdistinct he hlives
    rw [hliving] at hfound
    cases hfound

/-! ## No key is kept twice -/

/-- Dropping does not make two keys alike. -/
lemma nodup_keys_of_sublist (hdistinct : c.keys.Nodup) (hsub : c'.kept.Sublist c.kept) :
    c'.keys.Nodup :=
  hdistinct.sublist (hsub.map _)

/-- After a set, no key is kept twice. -/
lemma nodup_keys_set (hdistinct : c.keys.Nodup) (hset : c.set now key value = .ok c') :
    c'.keys.Nodup := by
  obtain ⟨others, hsub, hothers, hkept⟩ := kept_set hset
  rw [keys, hkept, List.map_append, List.map_singleton, ← List.concat_eq_append, List.nodup_concat]
  constructor
  · intro hmem
    obtain ⟨k, hk, hkey⟩ := List.mem_map.1 hmem
    exact hothers k hk hkey
  · exact hdistinct.sublist (hsub.map _)

/-- A cache whose keys are among some others has room for one that it does not keep. -/
lemma length_lt_card {keys : Finset Text} (hdistinct : c.keys.Nodup)
    (hkeys : ∀ k ∈ c.kept, k.key ∈ keys) (hkey : key ∈ keys) (hnew : key ∉ c.keys) :
    c.kept.length < keys.card := by
  have hproper : c.keys.toFinset ⊂ keys := by
    rw [Finset.ssubset_iff_of_subset]
    · exact ⟨key, hkey, fun hmem => hnew (List.mem_toFinset.1 hmem)⟩
    · intro key' hmem
      obtain ⟨k, hk, rfl⟩ := List.mem_map.1 (List.mem_toFinset.1 hmem)
      exact hkeys k hk
  have hcard := Finset.card_lt_card hproper
  rw [List.toFinset_card_of_nodup hdistinct, Cache.keys, List.length_map] at hcard
  exact hcard

/-- Where there is room for all keys, a set drops nothing that lives. -/
lemma mem_kept_set_of_card (hset : c.set now key value = .ok c') (hdistinct : c.keys.Nodup)
    {keys : Finset Text} (hkeys : ∀ k ∈ c.kept, k.key ∈ keys) (hcard : keys.card ≤ c.capacity)
    (hkey : key ∈ keys) (hk : k ∈ c.kept) (hother : k.key ≠ key)
    (hlives : now < k.setAt + c.ttl) : k ∈ c'.kept := by
  apply mem_kept_set hset _ hk hother hlives
  intro hnew
  have hsub := c.kept_expire now
  have hlength := length_lt_card (nodup_keys_of_sublist hdistinct hsub)
    (fun k hk => hkeys k (hsub.subset hk)) hkey hnew
  omega

/-! ## What is true of every entry -/

variable {P : Text → Option α → Prop}

/-- Every entry has a property of its key and its value. -/
def Holds (P : Text → Option α → Prop) (c : Cache α) : Prop :=
  ∀ e ∈ c.entries, P e.key e.value

/-- A property of every entry is a property of what is kept. -/
lemma holds_iff : c.Holds P ↔ ∀ k ∈ c.kept, P k.key k.value := by
  rw [kept, List.forall_mem_map]
  rfl

/-- What is true of every entry stays true of fewer entries. -/
lemma Holds.of_subset (h : c.Holds P) (hsub : c'.kept ⊆ c.kept) : c'.Holds P :=
  holds_iff.2 fun k hk => holds_iff.1 h k (hsub hk)

/-- What is true of every entry stays true under a get. -/
lemma Holds.get (h : c.Holds P) (now : Rat) (key : Text) : (c.get now key).2.Holds P := by
  rw [holds_iff, kept_get]
  exact holds_iff.1 h

/-- What is found has the property of all. -/
lemma Holds.of_get (h : c.Holds P) {v : α} (hget : (c.get now key).1 = some v) :
    P key (some v) := by
  obtain ⟨t, hkept, -⟩ := exists_kept_of_get hget
  exact holds_iff.1 h _ hkept

/-- A set keeps what is true of all if it is true of what is set. -/
lemma Holds.set (h : c.Holds P) (hvalue : P key value) (hset : c.set now key value = .ok c') :
    c'.Holds P := by
  rw [holds_iff]
  intro k hk
  rcases mem_or_eq_of_mem_kept_set hset hk with ⟨hk, -⟩ | rfl
  · exact holds_iff.1 h k hk
  · exact hvalue

/-- No entry is a stored nothing. -/
abbrev Filled (c : Cache α) : Prop :=
  c.Holds fun _ value => value.isSome

/-- Where nothing empty is stored, a get that finds nothing leaves no trace. -/
lemma get_of_eq_none (hfilled : c.Filled) (hget : (c.get now key).1 = none) :
    (c.get now key).2 = c := by
  unfold Cache.get at hget ⊢
  split
  · rename_i e hliving
    rw [hliving] at hget
    have hsome := hfilled e (living?_eq_some hliving).1
    exact absurd hget (Option.isSome_iff_ne_none.1 hsome)
  · rfl

end Cache

/-- A cache of results has room, and every entry has a property of its key and its value. -/
structure ResultCache.Sound {α : Type} (P : Text → Option α → Prop) (c : ResultCache α) : Prop where
  room : 0 < c.cache.capacity
  entries : c.cache.Holds P

namespace ResultCache.Sound

variable {α : Type} {P : Text → Option α → Prop} {c : ResultCache α}

/-- A sound cache is sound after a get. -/
lemma get (h : c.Sound P) (now : Rat) (address : Text) : (c.get now address).2.1.Sound P where
  room := (c.cache.limits_get now _).1.symm ▸ h.room
  entries := h.entries.get now _

/-- What is found under an address has the property for the key of the address. -/
lemma of_get (h : c.Sound P) {now : Rat} {address : Text} {value : α}
    (hget : (c.get now address).1 = some value) : P address.lower (some value) :=
  h.entries.of_get hget

/-- Every address can be set. -/
lemma exists_set_eq_ok (h : c.Sound P) (now : Rat) {address : Text} {value : Option α}
    (hvalue : P address.lower value) :
    ∃ c' record, c.set now address value = .ok (c', record) ∧ c'.Sound P := by
  obtain ⟨cache, hset, hcapacity⟩ := Cache.exists_set_eq_ok h.room now (keyOf address) value
  rw [ResultCache.set, hset]
  refine ⟨_, _, rfl, ?_, h.entries.set hvalue hset⟩
  rw [hcapacity]
  exact h.room

end ResultCache.Sound

end ContractAudit
