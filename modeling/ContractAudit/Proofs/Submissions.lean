import ContractAudit.Proofs.JsonTexts
import ContractAudit.Proofs.Tables
import ContractAudit.Submission
import Mathlib.Data.List.Forall2
import Mathlib.Data.List.Nodup

/-!
# Files of a submission

A document describes files if its member `sources`, or the document itself, has a member for each
path that holds the content. Whatever else the document holds and however its text is laid out,
flattening the text gives the files in their order under their headings
(`flatten_eq_of_describes`).
-/

namespace ContractAudit

namespace Json

/-! ## Members by their names -/

/-- One more member overrides the one of its name, or comes last. -/
lemma settle_concat (members : List (Text × Json)) (m : Text × Json) :
    settle (members ++ [m]) = upsert m.1 m.2 (settle members) := by
  rw [settle, settle, List.foldl_append, List.foldl_cons, List.foldl_nil]

/-- The last member of a name has its value. -/
lemma lookup?_settle {k : Text} {v : Json} {before after : List (Text × Json)}
    (h : ∀ m ∈ after, m.1 ≠ k) : lookup? k (settle (before ++ (k, v) :: after)) = some v := by
  induction after using List.reverseRecOn with
  | nil => rw [settle_concat, lookup?_upsert, if_pos BEq.rfl]
  | append_singleton after m ih =>
    have hm : m.1 ≠ k := h m (List.mem_append_right after (List.mem_singleton_self m))
    rw [← List.cons_append, ← List.append_assoc, settle_concat, lookup?_upsert,
      if_neg (mt beq_iff_eq.1 hm), ih fun n hn => h n (List.mem_append_left [m] hn)]

/-- Members with different names stay as they are. -/
lemma settle_of_nodup {members : List (Text × Json)} (h : (members.map Prod.fst).Nodup) :
    settle members = members := by
  induction members using List.reverseRecOn with
  | nil => rfl
  | append_singleton members m ih =>
    rw [List.map_append, List.map_singleton, List.nodup_append] at h
    obtain ⟨hinit, -, hlast⟩ := h
    have hnew : m.1 ∉ members.map Prod.fst :=
      fun hm => hlast m.1 hm m.1 (List.mem_singleton_self _) rfl
    rw [settle_concat, ih hinit, upsert_of_notMem _ hnew]

/-- Members are read one by one. -/
lemma rereadMembers_eq (members : List (Text × Json)) :
    rereadMembers members = members.map fun m => (m.1.rejoined, m.2.reread) := by
  induction members with
  | nil => rfl
  | cons m members ih => rw [rereadMembers, ih, List.map_cons]

/-- Among members, the last of a plain name has a value. -/
inductive HasMember (name : String) (v : Json) : List (Text × Json) → Prop where
  | intro (before : List (Text × Json)) {after : List (Text × Json)}
      (hafter : ∀ m ∈ after, m.1 ≠ Text.ofString name) :
      HasMember name v (before ++ (Text.ofString name, v) :: after)

/-- A member that is written is found when it is read. -/
lemma HasMember.lookup?_reread {name : String} {v : Json} {members : List (Text × Json)}
    (h : HasMember name v members) (hname : ∀ p ∈ Text.ofString name, p.value < 0x10000) :
    lookup? (Text.ofString name) (settle (rereadMembers members)) = some v.reread := by
  obtain ⟨before, hafter⟩ := h
  rw [rereadMembers_eq, List.map_append, List.map_cons, Text.rejoined_ofString]
  apply lookup?_settle
  rw [List.forall_mem_map]
  exact fun m hm heq => hafter m hm (Text.eq_of_rejoined_eq hname heq)

end Json

namespace Submission

open Json (Lays Spaces HasMember)

/-! ## Documents that describe files -/

/-- The value of a file: an object with the content. -/
def Holds (content : String) (v : Json) : Prop :=
  ∃ members, v = .object members ∧ HasMember "content" (.ofString content) members

/-- The members map the paths of the files to their contents, in order. -/
def Maps (files : List (String × String)) (entries : List (Text × Json)) : Prop :=
  List.Forall₂ (fun file entry => entry.1 = Text.ofString file.1 ∧ Holds file.2 entry.2) files
    entries

/-- The document describes the files, in a member `sources` or as a whole. -/
inductive Describes (files : List (String × String)) : Json → Prop where
  | sources {members entries : List (Text × Json)}
      (hsources : HasMember "sources" (.object entries) members) (hentries : Maps files entries) :
      Describes files (.object members)
  | bare {entries : List (Text × Json)} (hentries : Maps files entries)
      (hpaths : ∀ file ∈ files, file.1 ≠ "sources") : Describes files (.object entries)

/-- A file under its heading. -/
def headed (file : String × String) : String :=
  "// File: " ++ file.1 ++ "\n" ++ file.2

/-- The files under their headings, a blank line between neighbours. -/
def merged (files : List (String × String)) : String :=
  "\n\n".intercalate (files.map headed)

/-! ## The files that are found -/

variable {files : List (String × String)} {entries : List (Text × Json)}

/-- A file that is written is read as its path and its content. -/
lemma part?_reread {file : String × String} {entry : Text × Json}
    (hpath : entry.1 = Text.ofString file.1) (hholds : Holds file.2 entry.2) :
    part? (entry.1.rejoined, entry.2.reread) = some (Text.ofString (headed file)) := by
  obtain ⟨members, hv, hcontent⟩ := hholds
  have hget : entry.2.reread.get? "content" = some (.str (Text.ofString file.2)) := by
    rw [hv, Json.reread, Json.get?, hcontent.lookup?_reread (by decide), Json.ofString, Json.reread,
      Text.rejoined_ofString]
  simp only [part?, hget, hpath, Text.rejoined_ofString, headed, Text.ofString_append]

/-- Files that are written are read in their order. -/
lemma Maps.filterMap_part? (h : Maps files entries) :
    (Json.rereadMembers entries).filterMap part? =
      files.map fun file => Text.ofString (headed file) := by
  rw [Json.rereadMembers_eq]
  induction h with
  | nil => rfl
  | cons hfile _ ih =>
    rw [List.map_cons, List.filterMap_cons_some (part?_reread hfile.1 hfile.2), ih, List.map_cons]

/-- Strings are known by their code points. -/
lemma ofString_injective : Function.Injective Text.ofString := by
  intro a b h
  have ha := Text.toString?_ofString a
  rw [h, Text.toString?_ofString] at ha
  exact (Option.some.inj ha).symm

/-- The paths that are read are those of the files. -/
lemma Maps.map_fst (h : Maps files entries) :
    (Json.rereadMembers entries).map Prod.fst = (files.map Prod.fst).map Text.ofString := by
  rw [Json.rereadMembers_eq]
  induction h with
  | nil => rfl
  | cons hfile _ ih =>
    simp only [List.map_cons, ih, hfile.1, Text.rejoined_ofString]

/-- A map goes through separators too. -/
lemma map_intersperse {α β : Type} (f : α → β) (sep : α) (xs : List α) :
    (xs.intersperse sep).map f = (xs.map f).intersperse (f sep) := by
  induction xs using List.twoStepInduction with
  | nil => rfl
  | singleton x => rfl
  | cons_cons x y xs _ ih =>
    rw [List.intersperse_cons_cons, List.map_cons, List.map_cons, ih]
    simp only [List.map_cons, List.intersperse_cons_cons]

/-- Texts are joined as strings are. -/
lemma joinWith_ofString (separator : String) (parts : List String) :
    Text.joinWith (Text.ofString separator) (parts.map Text.ofString) =
      Text.ofString (separator.intercalate parts) := by
  have hparts : parts.map Text.ofString = (parts.map String.toList).map (List.map .scalar) := by
    rw [List.map_map]
    rfl
  have hjoin : Text.ofString (separator.intercalate parts) =
      (separator.toList.intercalate (parts.map String.toList)).map .scalar := by
    rw [Text.ofString, String.toList_intercalate]
  rw [hjoin, List.intercalate, List.map_flatten, map_intersperse, ← hparts]
  rfl

/-- Different paths are different names, so every entry stays in its place. -/
lemma Maps.settle_eq (h : Maps files entries) (hpaths : (files.map Prod.fst).Nodup) :
    Json.settle (Json.rereadMembers entries) = Json.rereadMembers entries := by
  apply Json.settle_of_nodup
  rw [h.map_fst]
  exact List.Nodup.map ofString_injective hpaths

/-- Files that are written are joined as they are merged. -/
lemma Maps.joined_eq (h : Maps files entries) (hne : files ≠ []) :
    joined (Json.rereadMembers entries) = some (Text.ofString (merged files)) := by
  rw [joined, h.filterMap_part?, merged, ← joinWith_ofString, List.map_map]
  obtain ⟨file, rest, rfl⟩ := List.exists_cons_of_ne_nil hne
  rfl

/-- The files of a document that describes them are found and joined. -/
lemma Describes.joined_eq {doc : Json} (h : Describes files doc) (hne : files ≠ [])
    (hpaths : (files.map Prod.fst).Nodup) :
    (files? doc.reread).bind joined = some (Text.ofString (merged files)) := by
  cases h with
  | @sources members entries hsources hentries =>
    rw [Json.reread, files?]
    simp only [hsources.lookup?_reread (by decide), Json.reread, hentries.settle_eq hpaths]
    exact hentries.joined_eq hne
  | @bare entries hentries hother =>
    have hnone : lookup? (Text.ofString "sources") (Json.rereadMembers entries) = none := by
      apply lookup?_of_notMem
      rw [hentries.map_fst, List.map_map]
      intro hmem
      obtain ⟨file, hfile, hpath⟩ := List.mem_map.1 hmem
      exact hother file hfile (ofString_injective hpath)
    rw [Json.reread, hentries.settle_eq hpaths, files?]
    simp only [hnone]
    exact hentries.joined_eq hne

/-! ## Braces about a text -/

/-- What separates tokens is blank. -/
lemma isBlank_of_isSpace {p : CodePoint} (h : Json.isSpace p = true) : p.isBlank = true := by
  rcases Json.isSpace_cases h with rfl | rfl | rfl | rfl <;> decide

/-- A text in a pair of braces. -/
def braced (s : Text) : Text :=
  .scalar '\x7b' :: (s ++ [.scalar '\x7d'])

/-- Blanks around braces are stripped. -/
lemma strip_braced {before after : Text} (hbefore : Spaces before) (hafter : Spaces after)
    (s : Text) : (before ++ (braced s ++ after)).strip = braced s := by
  have hopen : (braced s ++ after).dropWhile CodePoint.isBlank = braced s ++ after :=
    List.dropWhile_cons_of_neg (by decide)
  have hclose : (braced s).reverse.dropWhile CodePoint.isBlank = (braced s).reverse := by
    rw [braced, List.reverse_cons, List.reverse_append, List.reverse_singleton]
    exact List.dropWhile_cons_of_neg (by decide)
  rw [Text.strip, stripBy,
    List.dropWhile_append_of_pos fun p hp => isBlank_of_isSpace (hbefore p hp), hopen,
    List.reverse_append, List.dropWhile_append_of_pos, hclose, List.reverse_reverse]
  exact fun p hp => isBlank_of_isSpace (hafter p (List.mem_reverse.1 hp))

/-- Of doubled braces one pair is taken off. -/
lemma candidate_braced_braced (s : Text) : candidate (braced (braced s)) = braced s := by
  have hstarts : (braced (braced s)).startsWith (opening ++ opening) = true := by
    rfl
  have hends : (braced (braced s)).endsWith (closing ++ closing) = true := by
    rw [Text.endsWith, List.isSuffixOf_iff_suffix]
    refine ⟨.scalar '\x7b' :: .scalar '\x7b' :: s, ?_⟩
    simp [braced, Text.ofString, closing]
  rw [candidate, hstarts, hends, Bool.and_self, if_pos rfl]
  rw [braced, List.drop_succ_cons, List.drop_zero, List.dropLast_concat]

/-- A text whose second character is no brace is read as it is. -/
lemma candidate_braced {s : Text} (hs : ∀ p ∈ s.head?, p.isChar '\x7b' = false) :
    candidate (braced s) = braced s := by
  have hstarts : (braced s).startsWith (opening ++ opening) = false := by
    cases s with
    | nil => rfl
    | cons p s =>
      have hp := hs p rfl
      rw [CodePoint.isChar, beq_eq_false_iff_ne] at hp
      rw [← Bool.not_eq_true, Text.startsWith, List.isPrefixOf_iff_prefix]
      intro hprefix
      obtain ⟨rest, hrest⟩ := hprefix
      injection hrest with _ hrest
      injection hrest with hfirst _
      exact hp hfirst.symm
  rw [candidate, hstarts, Bool.false_and, if_neg Bool.false_ne_true]

/-- If the text in the braces can be read, flattening takes the files from its value. -/
lemma flatten_eq_of_read {limit : Nat} {code s : Text} {v : Json}
    (hstrip : code.strip = braced s)
    (hread : Json.readUnmarked limit (candidate (braced s)) = .ok v) :
    flatten limit code = .ok (((files? v).bind joined).getD code) := by
  rw [flatten]
  simp only [hstrip, hread]
  rfl

/-- A text of an object is read from its braces. -/
lemma readUnmarked_braced {limit : Nat} {s : Text} {doc : Json} (ht : Lays doc (braced s))
    (hfits : doc.fits limit = true) :
    Json.readUnmarked limit (braced s) = .ok doc.reread := by
  have hhead : ((braced s).head? == some (.scalar '\uFEFF')) = false := by
    rfl
  rw [Json.readUnmarked, hhead, if_neg Bool.false_ne_true, ht.read_eq hfits]

/-- A document that describes files has members, and its text is in a pair of braces. -/
lemma Describes.exists_braced {doc : Json} {t : Text} (h : Describes files doc) (hne : files ≠ [])
    (ht : Lays doc t) : ∃ s, t = braced s ∧ ∀ p ∈ s.head?, p.isChar '\x7b' = false := by
  have hmembers : ∃ members, doc = .object members ∧ members ≠ [] := by
    cases h with
    | sources hsources hentries =>
      obtain ⟨before, hafter⟩ := hsources
      exact ⟨_, rfl, List.append_ne_nil_of_right_ne_nil _ (List.cons_ne_nil _ _)⟩
    | bare hentries hother =>
      refine ⟨_, rfl, ?_⟩
      rintro rfl
      cases hentries
      exact hne rfl
  obtain ⟨members, rfl, hsome⟩ := hmembers
  cases ht with
  | scalar hv => cases hv
  | @object _ s hs =>
    refine ⟨s, rfl, ?_⟩
    obtain ⟨b, u, rfl, hb⟩ := hs.exists_token hsome
    cases b with
    | nil =>
      rintro p ⟨⟩
      rfl
    | cons q b =>
      rintro p ⟨⟩
      rcases Json.isSpace_cases (hb q List.mem_cons_self) with rfl | rfl | rfl | rfl <;> rfl

/-- Flattening recovers every file of a document that is nested within the limit. However its text is
laid out, bare or in an extra pair of braces and with blanks about it, the result is the files in
their order under their headings. The document's text on one line is one of its layouts. -/
theorem flatten_eq_of_describes {limit : Nat} {doc : Json} {t before after : Text}
    (hne : files ≠ []) (hpaths : (files.map Prod.fst).Nodup) (hdoc : Describes files doc)
    (hfits : doc.fits limit = true) (ht : Lays doc t) (hbefore : Spaces before)
    (hafter : Spaces after) :
    flatten limit (before ++ (t ++ after)) = .ok (Text.ofString (merged files)) ∧
      flatten limit (before ++ (braced t ++ after)) = .ok (Text.ofString (merged files)) ∧
      Lays doc (Text.ofString doc.write) := by
  obtain ⟨s, rfl, hs⟩ := hdoc.exists_braced hne ht
  have hread := readUnmarked_braced ht hfits
  have hjoined := hdoc.joined_eq hne hpaths
  refine ⟨?_, ?_, Json.lays_write doc⟩
  · rw [flatten_eq_of_read (strip_braced hbefore hafter s) (by rw [candidate_braced hs, hread]),
      hjoined, Option.getD_some]
  · rw [flatten_eq_of_read (strip_braced hbefore hafter (braced s))
      (by rw [candidate_braced_braced, hread]), hjoined, Option.getD_some]

/-- Two files with quotes, backslashes, braces and characters beyond ASCII. -/
def quotedFiles : List (String × String) :=
  [("a\"b.sol", "\x7b\x7bs = \"\\n\";\n\x7d\x7d"), ("é/😀.sol", "\t")]

/-- A file as an object with its content. -/
def entryOf (file : String × String) : Text × Json :=
  (Text.ofString file.1, .object [(Text.ofString "content", .ofString file.2)])

/-- Every list of files can be written. -/
lemma maps_entryOf (files : List (String × String)) : Maps files (files.map entryOf) := by
  rw [Maps, List.forall₂_map_right_iff]
  refine List.forall₂_same.2 fun file _ => ⟨rfl, _, rfl, ?_⟩
  exact HasMember.intro [] (List.forall_mem_nil _)

/-- The two files in a document with other members, a lone surrogate among them. -/
def quotedDocument : Json :=
  .object
    [(Text.ofString "language", .ofString "Solidity"),
     (Text.ofString "sources", .object (quotedFiles.map entryOf)),
     ([.surrogate ⟨0, by decide⟩], .array [.int (-3), .null])]

/-- Paths and contents with quotes, braces and letters beyond four digits. -/
theorem flatten_eq_of_describes_quoted :
    quotedFiles ≠ [] ∧ (quotedFiles.map Prod.fst).Nodup ∧ Describes quotedFiles quotedDocument ∧
      quotedDocument.fits 3 = true ∧
      Lays quotedDocument (Text.ofString quotedDocument.write) ∧
      flatten 3 (Text.ofString "\n" ++
          (braced (Text.ofString quotedDocument.write) ++ Text.ofString "\t")) =
        .ok (Text.ofString
          "// File: a\"b.sol\n\x7b\x7bs = \"\\n\";\n\x7d\x7d\n\n// File: é/😀.sol\n\t") := by
  have hne : quotedFiles ≠ [] := List.cons_ne_nil _ _
  have hpaths : (quotedFiles.map Prod.fst).Nodup := by
    decide
  have hdoc : Describes quotedFiles quotedDocument := by
    refine .sources (HasMember.intro [_] ?_) (maps_entryOf quotedFiles)
    exact List.forall_mem_singleton.2 (by decide)
  have hfits : quotedDocument.fits 3 = true := by
    decide
  have hlays := Json.lays_write quotedDocument
  have hbefore : Spaces (Text.ofString "\n") := List.forall_mem_singleton.2 rfl
  have hafter : Spaces (Text.ofString "\t") := List.forall_mem_singleton.2 rfl
  have hflatten := flatten_eq_of_describes hne hpaths hdoc hfits hlays hbefore hafter
  exact ⟨hne, hpaths, hdoc, hfits, hlays, hflatten.2.1⟩

end Submission

end ContractAudit
