import Ratchet.Proofs.AllowList.Batches

/-!
# What recording leaves alone

Recording files writes the whole document anew, and the document may hold anything
besides its three lists. All of it is there afterwards, in its place: only the excluded
patterns and the single files are others, and the lists that were missing stand at the
end. What has been written is what is read of it.

* `Stores`: what a document holds as it stands.
* `complete_eq_append`: the lists that a document lacks stand at its end.
* `update_eq_map`: other members than the two lists stay, and all keep their places.
* `Recorded`: what becomes of the two lists.
* `add_rewrites_lists`: the new document.
-/

namespace Ratchet.AllowList

open Json (Value Members)

variable {fs fs' : FileSystem} {a : AllowList} {m after members : Members}
  {us vs : List Value} {texts : List Json.Text} {files included written : List String}
  {path : Path} {languages : List Language} {arrangement : Json.Arrangement}

/-! ## The document as it stands -/

/-- The members of a document as they stand in it; none, if there is no document. -/
def Stores (a : AllowList) (fs : FileSystem) (members : Members) : Prop :=
  fs.occurs a.path = .ok false ∧ members = [] ∨
    fs.occurs a.path = .ok true ∧
      ∃ source, fs.readText a.path = .ok source ∧ Json.read source = .ok (.object members)

/-- What is read is what is stored, with the three lists. -/
theorem read_eq_ok :
    a.read fs = .ok m ↔ ∃ members, a.Stores fs members ∧ complete members = m := by
  constructor
  · intro h
    obtain ⟨b, hb, h⟩ := Outcome.bind_eq_ok.mp h
    cases b with
    | false =>
      cases h
      exact ⟨[], .inl ⟨hb, rfl⟩, rfl⟩
    | true =>
      obtain ⟨source, hsource, h⟩ := Outcome.bind_eq_ok.mp h
      split at h
      · cases h
      · cases h
      · rename_i members hread
        cases h
        exact ⟨members, .inr ⟨hb, source, hsource, hread⟩, rfl⟩
      · cases h
  · rintro ⟨members, ⟨hb, rfl⟩ | ⟨hb, source, hsource, hread⟩, rfl⟩
    · rw [read, hb]
      rfl
    · rw [read, hb, hsource]
      simp only [bind, Except.bind, Bool.not_true, Bool.false_eq_true, if_false, hread]
      rfl

/-- Lists that a document lacks, as they stand at its end. -/
def lacking (ks : List Key) (m : Members) : Members :=
  (ks.filter fun k => k.text ∉ m.map Prod.fst).map fun k => (k.text, .array [])

theorem foldl_setDefault {ks : List Key} (hks : ks.Nodup) (m : Members) :
    ks.foldl (fun m k => Members.setDefault k.text (.array []) m) m = m ++ lacking ks m := by
  induction ks generalizing m with
  | nil => exact (List.append_nil m).symm
  | cons k ks ih =>
    obtain ⟨hk, hks⟩ := List.nodup_cons.mp hks
    rw [List.foldl_cons, ih hks, Members.setDefault_eq]
    by_cases hmem : k.text ∈ m.map Prod.fst
    · rw [if_pos hmem, lacking, lacking, List.filter_cons_of_neg (by simpa using hmem)]
    · have hset : Members.set k.text (.array []) m = m ++ [(k.text, .array [])] := by
        rw [Members.set, if_neg (by simpa using hmem)]
      -- the key that has been added is none of the others
      have hrest : lacking ks (m ++ [(k.text, .array [])]) = lacking ks m := by
        rw [lacking, lacking]
        refine congrArg (List.map _) (List.filter_congr fun k' hk' => ?_)
        have hne : k'.text ≠ k.text := fun h => hk (Key.text_injective h ▸ hk')
        simp [hne]
      have hmore : lacking (k :: ks) m = (k.text, .array []) :: lacking ks m := by
        rw [lacking, List.filter_cons_of_pos (by simpa using hmem)]
        rfl
      rw [if_neg hmem, hset, hrest, hmore, List.append_assoc, List.singleton_append]

/-- The lists that a document lacks, in the order in which they are added. -/
def missing (m : Members) : Members :=
  lacking [.included, .excluded, .files] m

/-- **The lists that a document lacks stand at its end.** -/
theorem complete_eq_append (m : Members) : complete m = m ++ missing m :=
  foldl_setDefault (by decide) m

/-! ## Two lists with other items -/

/-- A member with other items, if it is the excluded patterns or the single files. -/
def replaceLists (us ws : List Value) (member : Json.Text × Value) : Json.Text × Value :=
  if member.1 = Key.excluded.text then (member.1, .array us)
  else if member.1 = Key.files.text then (member.1, .array ws)
  else member

/-- **All members keep their places**, and all but two lists their values. -/
theorem update_eq_map (hm : ∀ k : Key, k.text ∈ m.map Prod.fst) (us ws : List Value) :
    update m us ws = m.map (replaceLists us ws) := by
  have hfiles : Key.files.text ∈
      (Members.set Key.excluded.text (.array us) m).map Prod.fst := by
    rw [Json.keys_set, if_pos (hm _)]
    exact hm .files
  have hne : Key.excluded.text ≠ Key.files.text := fun h => by cases Key.text_injective h
  rw [update, Members.set_of_mem hfiles, Members.set_of_mem (hm _), List.map_map]
  refine List.map_congr_left fun member _ => ?_
  by_cases hexcluded : member.1 = Key.excluded.text <;>
    by_cases hsingle : member.1 = Key.files.text <;>
      simp_all [replaceLists]

/-- The members of a document in which files have been recorded. -/
def rewritten (members : Members) (us : List Value) (texts : List Json.Text) : Members :=
  (members ++ missing members).map (replaceLists us (texts.map .string))

/-! ## What becomes of the lists -/

/-- A text that is there is taken off once. -/
theorem perm_takeOff {t : Json.Text} (h : .string t ∈ vs) :
    vs.Perm (.string t :: takeOff t vs) := by
  induction vs with
  | nil => cases h
  | cons v vs ih =>
    rw [takeOff]
    split
    · rename_i htext
      rw [isText_iff.mp htext]
    · rename_i htext
      have hvs : .string t ∈ vs := (List.mem_cons.mp h).resolve_left fun heq =>
        htext (isText_iff.mpr heq.symm)
      exact ((ih hvs).cons v).trans (.swap _ _ _)

/-- Recording takes nothing off the excluded patterns but names of included files. -/
theorem exists_takenOff {d d' : Draft} (h : files.foldlM (a.addOne fs included) d = .ok d') :
    ∃ taken, d.excluded.Perm (d'.excluded ++ taken) ∧ taken.length ≤ files.length ∧
      ∀ v ∈ taken, ∃ f ∈ files, IsIncluded fs included f ∧
        ∃ entry, a.entryFor fs f = .ok entry ∧ ∃ t ∈ aliases entry, v = .string t := by
  induction files generalizing d with
  | nil =>
    cases h
    exact ⟨[], by simp, le_rfl, by simp⟩
  | cons f files ih =>
    rw [List.foldlM_cons] at h
    obtain ⟨d₁, hd₁, h⟩ := Outcome.bind_eq_ok.mp h
    obtain ⟨taken, hperm, hlength, htaken⟩ := ih h
    have hrest : ∀ v ∈ taken, ∃ g ∈ f :: files, IsIncluded fs included g ∧
        ∃ entry, a.entryFor fs g = .ok entry ∧ ∃ t ∈ aliases entry, v = .string t :=
      fun v hv => (htaken v hv).imp fun _ hg => ⟨.tail _ hg.1, hg.2⟩
    obtain ⟨entry, he, ⟨t, ht, hlisted, hincluded, rfl⟩ | ⟨-, rfl⟩⟩ := addOne_cases hd₁
    · refine ⟨.string t :: taken, ?_, Nat.succ_le_succ hlength, List.forall_mem_cons.mpr
        ⟨⟨f, .head _, hincluded, entry, he, t, ht, rfl⟩, hrest⟩⟩
      exact ((perm_takeOff hlisted).trans (hperm.cons _)).trans List.perm_middle.symm
    · rw [Draft.excluded_join] at hperm
      exact ⟨taken, hperm, hlength.trans (Nat.le_succ _), hrest⟩

/-- **What becomes of the excluded patterns and the single files** when files are
recorded. -/
structure Recorded (a : AllowList) (fs : FileSystem) (m : Members) (files : List String)
    (us : List Value) (texts : List Json.Text) : Prop where
  /-- The excluded patterns lose names of the files only, and keep their order. -/
  excluded : ∃ vs taken, listed m .excluded = .ok vs ∧ us.Sublist vs ∧ vs.Perm (us ++ taken) ∧
    taken.length ≤ files.length ∧ ∀ v ∈ taken, ∃ f ∈ files, a.IsNameOf fs m v f
  /-- The single files ascend, and none stands twice. -/
  order : texts.Pairwise (· < ·)
  /-- They are those that were, and the entries of the files that were not excluded
  by name. -/
  single : ∃ vs, listed m .files = .ok vs ∧ ∀ t, t ∈ texts ↔ .string t ∈ vs ∨
    ∃ f ∈ files, ¬ a.IsExcludedByName fs m f ∧
      ∃ entry, a.entryFor fs f = .ok entry ∧ t = Json.textOf entry

/-- A revision of a document whose single files are texts. -/
theorem recorded_of_revise (hread : a.read fs = .ok m)
    (htexts : ∀ vs, listed m .files = .ok vs → ∀ v ∈ vs, IsString v)
    (hfiles : ∀ f ∈ files, fs.IsPlace f) (hnodup : files.Nodup)
    (h : a.revise fs files = .ok (after, written)) :
    ∃ us texts, after = update m us (texts.map .string) ∧ Recorded a fs m files us texts := by
  obtain ⟨us, single, included, d, ws, hstart, hd, hws, rfl, -⟩ := (revise_eq_ok hread).mp h
  obtain ⟨vs, hvs, hsingle⟩ := hstart.files
  have hmem := mem_distinct hsingle (htexts vs hvs)
  have hrecords := records_all hfiles hnodup hd
  -- the single files of the draft are texts, and no two of them are the same
  have hstrings : ∀ v ∈ d.files, IsString v := by
    intro v hv
    obtain hv | ⟨f, -, entry, -, rfl⟩ := hrecords.new v hv
    · exact htexts vs hvs v ((hmem v).mp hv)
    · exact ⟨_, rfl⟩
  have hdistinct : Draft.IsDistinct d.files := by
    obtain ⟨hapart, hscalar, hsub, -⟩ := Json.distinct_spec (distinct_eq_ok.mp hsingle)
    rw [foldlM_addOne hfiles] at hd
    cases hd
    exact Draft.isDistinct_recordAll ⟨hapart, fun v hv => hscalar v (hsub v hv)⟩ files
  obtain ⟨texts, rfl, hascending⟩ :=
    Json.sorted?_texts hstrings hdistinct.apart (sorted_eq_ok.mp hws)
  have htext : ∀ t, t ∈ texts ↔ .string t ∈ d.files := fun t => by
    rw [← mem_sorted hws, List.mem_map_of_injective fun _ _ => Value.string.inj]
  refine ⟨d.excluded, texts, rfl, ?_, hascending, vs, hvs, fun t => ?_⟩
  · obtain ⟨hus, -, patterns, hpatterns, hincluded⟩ := hstart
    obtain ⟨taken, hperm, hlength, htaken⟩ := exists_takenOff hd
    refine ⟨us, taken, hus, hrecords.excluded, hperm, hlength, fun v hv => ?_⟩
    obtain ⟨f, hf, ⟨p, hp, hplace⟩, hname⟩ := htaken v hv
    exact ⟨f, hf, ⟨p, hp, (mem_filesOfAll (by decide) hpatterns hincluded).mp hplace⟩, hname⟩
  · rw [htext]
    constructor
    · intro ht
      obtain ht | ⟨f, hf, hnamed, entry, he, heq⟩ := hrecords.fresh _ ht
      · exact .inl ((hmem _).mp ht)
      · exact .inr ⟨f, hf, mt (isNamed_iff hstart (hfiles f hf)).mpr hnamed, entry, he,
          Value.string.inj heq⟩
    · rintro (ht | ⟨f, hf, hnot, entry, he, rfl⟩)
      · exact hrecords.kept _ ((hmem _).mpr ht)
      · obtain ⟨entry', he', hdone⟩ := hrecords.entry f hf
        cases he.symm.trans he'
        exact hdone.resolve_right (mt (isNamed_iff hstart (hfiles f hf)).mp hnot)

theorem Recorded.of_ascending (h : Recorded a fs m (ascending files) us texts) :
    Recorded a fs m files us texts where
  excluded := by
    obtain ⟨vs, taken, hvs, hsub, hperm, hlength, htaken⟩ := h.excluded
    have hle : (ascending files).length ≤ files.length :=
      ((nodup_ascending files).subperm fun _ => mem_ascending.mp).length_le
    exact ⟨vs, taken, hvs, hsub, hperm, hlength.trans hle,
      by simpa only [mem_ascending] using htaken⟩
  order := h.order
  single := by simpa only [mem_ascending] using h.single

/-- **Recording files rewrites two lists and nothing else.** Where the single files are
texts, the new document holds what the old one does, with everything in its place, and
the lists that it lacks at the end. It loses excluded patterns that are names of the
files, and its single files are the old ones and the new ones in ascending order. What
has been written is what is read again. -/
theorem add_rewrites_lists (hpath : atPath fs path languages arrangement = .ok a) (hfs : fs.Proper)
    (hstores : a.Stores fs members)
    (htexts : ∀ vs, listed (complete members) .files = .ok vs → ∀ v ∈ vs, IsString v)
    (hfiles : ∀ f ∈ files, fs.IsPlace f) (hne : files ≠ [])
    (h : a.add fs files = .ok (written, fs')) :
    ∃ us texts, Recorded a fs (complete members) files us texts ∧
      fs'.readText a.path = .ok (textOf (rewritten members us texts)).toList ∧
      a.Stores fs' (rewritten members us texts) ∧
      a.read fs' = .ok (rewritten members us texts) := by
  obtain ⟨parts, hparts, hup⟩ := atPath_eq_ok hpath hfs.cwd
  have hread : a.read fs = .ok (complete members) := read_eq_ok.mpr ⟨members, hstores, rfl⟩
  obtain ⟨after, fs₁, hm, -, hwrite⟩ := add_eq_ok h hne
  have hsound := sound_revise hread hm
  have hread' := read_writeText hsound hparts hup hwrite
  obtain ⟨us, texts, rfl, hrecorded⟩ := recorded_of_revise hread htexts
    (fun f hf => hfiles f (mem_ascending.mp hf)) (nodup_ascending files) hm
  have hafter : update (complete members) us (texts.map .string) =
      rewritten members us texts := by
    rw [update_eq_map (sound_of_read hread).keys, complete_eq_append, rewritten]
  rw [hafter] at hsound hread' hwrite
  rw [hparts] at hwrite
  obtain ⟨hoccurs, htext⟩ := FileSystem.readText_writeText hup (isPlain_textOf _) hwrite
  rw [← hparts] at hoccurs htext
  exact ⟨us, texts, hrecorded.of_ascending, htext, .inr ⟨hoccurs, _, htext, read_textOf hsound⟩,
    hread'⟩

/-! ### A document with notes -/

/-- A document that holds more than its lists, and lacks one of these. -/
def annotated : FileSystem :=
  shelf <| "\x7b\"notes\": [1, [\"\\ud800\", \x7b\x7d]], " ++
    "\"exclude\": [\"./a.py\", \"old/*\"], \"include\": [\"*.py\"]\x7d"

/-- What it holds when two files have been recorded. -/
def annotatedAfter : String :=
  "\x7b\n  \"notes\": [\n    1,\n    [\n      \"\\ud800\",\n      \x7b\x7d\n    ]\n  ],\n  " ++
    "\"exclude\": [\n    \"old/*\"\n  ],\n  \"include\": [\n    \"*.py\"\n  ],\n  " ++
    "\"files\": [\n    \"./b.py\"\n  ]\n\x7d\n"

/-- A name of one file is taken off the excluded patterns and the other one, which is
not there, joins the single files, of which there was no list. -/
theorem annotated_is_rewritten :
    ∃ members written fs' us texts, shelfList.Stores annotated members ∧
      shelfList.add annotated ["/w/b.py", "/w/a.py"] = .ok (written, fs') ∧
      fs'.readText shelfList.path = .ok annotatedAfter.toList ∧
      textOf (rewritten members us texts) = annotatedAfter ∧
      shelfList.Stores fs' (rewritten members us texts) ∧
      Recorded shelfList annotated (complete members) ["/w/b.py", "/w/a.py"] us texts := by
  have hpath : atPath annotated (.ofParts ["w", "strict-files.json"]) [] (.ofMark 1) =
      .ok shelfList := rfl
  have hascending : ascending ["/w/b.py", "/w/a.py"] = ["/w/a.py", "/w/b.py"] := by decide
  obtain ⟨⟨after, written⟩, hrevise, hafter⟩ := Outcome.map_eq_ok.mp <|
    Outcome.toOption_eq_some.mp <| show ((textOf ·.1) <$> shelfList.revise annotated
      ["/w/a.py", "/w/b.py"]).toOption = some annotatedAfter by decide +kernel
  obtain ⟨fs', hwrite⟩ : ∃ fs', annotated.writeText shelfList.path (textOf after) = .ok fs' :=
    ⟨_, rfl⟩
  have hadd : shelfList.add annotated ["/w/b.py", "/w/a.py"] = .ok (written, fs') :=
    add_of_revise (by simp) (hascending ▸ hrevise) rfl hwrite
  obtain ⟨-, htext⟩ := FileSystem.readText_writeText (by decide) (isPlain_textOf _) hwrite
  rw [hafter] at htext
  obtain ⟨m, hread, -⟩ := Outcome.bind_eq_ok.mp hrevise
  obtain ⟨members, hstores, rfl⟩ := read_eq_ok.mp hread
  -- there were no single files
  have hnone : (shelfList.read annotated >>= (listed · .files)).toOption.map (·.length) =
      some 0 := by decide +kernel
  have htexts : ∀ vs, listed (complete members) .files = .ok vs → ∀ v ∈ vs, IsString v := by
    intro vs hvs
    rw [hread] at hnone
    simp only [bind, Except.bind, hvs, Except.toOption, Option.map_some, Option.some.injEq,
      List.length_eq_zero_iff] at hnone
    simp [hnone]
  have hfiles : ∀ f ∈ ["/w/b.py", "/w/a.py"], annotated.IsPlace f := fun f hf =>
    (isPlace_weighted f hf).congr rfl
  obtain ⟨us, texts, hrecorded, htext', hstores', -⟩ := add_rewrites_lists hpath (proper_shelf _)
    hstores htexts hfiles (by simp) hadd
  have hsame := String.toList_injective (Except.ok.inj (htext'.symm.trans htext))
  exact ⟨members, written, fs', us, texts, hstores, hadd, htext, hsame, hstores', hrecorded⟩

end Ratchet.AllowList
