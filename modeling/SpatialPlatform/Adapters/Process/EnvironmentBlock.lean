import Mathlib.Data.List.Lex
import Mathlib.Data.List.Nodup
import SpatialPlatform.Adapters.Process.CommandLine
import SpatialPlatform.Lib.OrderedMap

/-!
# Environment blocks of child processes

`BuildEnvBlock` of `adapters/process/process_runner_win32.cpp` and of
`engine/workers/child_process_win32.cpp`. Both merge the overrides into the
entries of the parent with a `std::map` from what stands before the first `=` to
what follows it; one compares these names with `_wcsicmp`, the other as they
are. To Windows the `=` at the start of an entry belongs to its name, as in
`=C:`, and the case of a name does not matter.

* `envBlocks_effective_iff` — for which parents and overrides the child gets
  what was meant.
-/

namespace SpatialPlatform.Adapters.Process

open SpatialPlatform.Lib.ArgumentVector SpatialPlatform.Lib.OrderedMap

abbrev Text := List Wide

def equals : Wide := 0x3D

/-! ## The builders -/

/-- The entries of a block, up to an empty one; `entry` is what was read of the next one. -/
def readFrom : Text → List Wide → List Text
  | entry, [] => if entry = [] then [] else [entry]
  | entry, c :: block =>
      if c = 0 then if entry = [] then [] else entry :: readFrom [] block
      else readFrom (entry ++ [c]) block

def readBlock (block : List Wide) : List Text := readFrom [] block

/-- What stands before the first `=`. -/
def codeName (entry : Text) : Text := entry.takeWhile (· ≠ equals)

/-- What follows it. -/
def codeValue (entry : Text) : Text := (entry.dropWhile (· ≠ equals)).tail

def splitEntry (entry : Text) : Option (Text × Text) :=
  if equals ∈ entry then some (codeName entry, codeValue entry) else none

/-- `towlower` without a locale. -/
def toLower (c : Wide) : Wide := if 0x41 ≤ c ∧ c ≤ 0x5A then c + 0x20 else c

/-- Names in the order of their characters, each taken as `fold` has it. -/
def order (fold : Wide → Wide) (name : Text) : List ℕ := name.map fun c => (fold c).toNat

def entryText (e : Text × Text) : Text := e.1 ++ equals :: e.2

/-- The entries of a built block. -/
def mergedEntries (fold : Wide → Wide) (entries : List Text) : List Text :=
  (assignAll (order fold) (entries.filterMap splitEntry)).map entryText

/-- `BuildEnvBlock`, with the block that `GetEnvironmentStringsW` gives, if it gives one. -/
def buildEnvBlock (fold : Wide → Wide) (parent : Option (List Wide)) (overrides : List (List UInt8)) :
    List Wide :=
  let entries := (parent.map readBlock).getD [] ++ overrides.map (List.map widen)
  (mergedEntries fold entries).flatMap (· ++ [0]) ++ [0]

/-- `BuildEnvBlock` of the process runner, whose `KeyLess` is `_wcsicmp`. -/
def ProcessRunner.buildEnvBlock : Option (List Wide) → List (List UInt8) → List Wide :=
  Process.buildEnvBlock toLower

/-- `BuildEnvBlock` of the child process, with `operator<` of `std::wstring`. -/
def ChildProcess.buildEnvBlock : Option (List Wide) → List (List UInt8) → List Wide :=
  Process.buildEnvBlock id

/-! ## What a block means -/

/-- The name that Windows sees in an entry. -/
def nameOf : Text → Text
  | [] => []
  | c :: rest => c :: codeName rest

def valueOf : Text → Text
  | [] => []
  | _ :: rest => codeValue rest

/-- The name without its case. -/
def nameKey (entry : Text) : Text := (nameOf entry).map toLower

/-- A variable of its own for a drive, such as `=C:`. -/
def Drive (entry : Text) : Prop := entry.head? = some equals

/-- What the entries of a block should be: one for each name, the last override
where there is one, and else what the parent has. -/
structure Effective (parent overrides block : List Text) : Prop where
  one : (block.map nameKey).Nodup
  overridden : ∀ before override after, overrides = before ++ override :: after →
    (∀ later ∈ after, nameKey later ≠ nameKey override) →
    ∃ e ∈ block, nameKey e = nameKey override ∧ valueOf e = valueOf override
  kept : ∀ e ∈ parent, (∀ override ∈ overrides, nameKey override ≠ nameKey e) → e ∈ block
  only : ∀ e ∈ block, ∃ f ∈ parent ++ overrides, nameKey f = nameKey e

/-- Two blocks give every variable the same value. -/
def SameEnvironment (block block' : List Text) : Prop :=
  (∀ e ∈ block, ∃ f ∈ block', nameKey f = nameKey e ∧ valueOf f = valueOf e) ∧
    ∀ f ∈ block', ∃ e ∈ block, nameKey e = nameKey f ∧ valueOf e = valueOf f

/-- What both builders need: entries of the parent that nothing overrides have a
`=` and are the only ones of their name, and all drives are one. -/
structure Mergeable (parent overrides : List Text) : Prop where
  separated : ∀ e ∈ parent, equals ∈ e ∨ ∃ override ∈ overrides, nameKey override = nameKey e
  once : ∀ e ∈ parent, ∀ f ∈ parent, nameKey e = nameKey f →
    e = f ∨ ∃ override ∈ overrides, nameKey override = nameKey e
  oneDrive : ∀ e ∈ parent ++ overrides, ∀ f ∈ parent ++ overrides, Drive e → Drive f →
    nameKey e = nameKey f

/-- Names that differ at most in case are the same to the builder. -/
def Recognized (fold : Wide → Wide) (entries : List Text) : Prop :=
  ∀ e ∈ entries, ∀ f ∈ entries, equals ∈ e → equals ∈ f → nameKey e = nameKey f →
    order fold (codeName e) = order fold (codeName f)

/-! ## Blocks are read as they were written -/

theorem readFrom_append {entry text : Text} (htext : 0 ∉ text) (block : List Wide) :
    readFrom entry (text ++ block) = readFrom (entry ++ text) block := by
  induction text generalizing entry with
  | nil => rw [List.nil_append, List.append_nil]
  | cons c text ih =>
      obtain ⟨hc, hrest⟩ := not_or.mp (List.mem_cons.not.mp htext)
      rw [List.cons_append, readFrom, if_neg (Ne.symm hc), ih hrest, List.append_assoc]
      rfl

theorem readBlock_written {entries : List Text} (h : ∀ e ∈ entries, e ≠ [] ∧ 0 ∉ e) :
    readBlock (entries.flatMap (· ++ [0]) ++ [0]) = entries := by
  induction entries with
  | nil => rfl
  | cons e entries ih =>
      obtain ⟨hsome, hzero⟩ := h e List.mem_cons_self
      have hrest := ih fun f hf => h f (List.mem_cons_of_mem _ hf)
      rw [List.flatMap_cons, List.append_assoc, List.append_assoc, readBlock,
        readFrom_append hzero]
      show readFrom e (0 :: _) = _
      rw [readFrom, if_pos rfl, if_neg hsome]
      exact congrArg (e :: ·) hrest

theorem of_mem_readFrom {entry : Text} (hentry : 0 ∉ entry) {block : List Wide} :
    ∀ e ∈ readFrom entry block, e ≠ [] ∧ 0 ∉ e := by
  induction block generalizing entry with
  | nil =>
      intro e he
      unfold readFrom at he
      split_ifs at he with hempty
      · cases he
      · rw [List.mem_singleton.mp he]
        exact ⟨hempty, hentry⟩
  | cons c block ih =>
      intro e he
      unfold readFrom at he
      split_ifs at he with hc hempty
      · cases he
      · rcases List.mem_cons.mp he with rfl | he
        · exact ⟨hempty, hentry⟩
        · exact ih List.not_mem_nil e he
      · refine ih ?_ e he
        rw [List.mem_append, List.mem_singleton]
        exact not_or.mpr ⟨hentry, Ne.symm hc⟩

/-! ## Names and values

The builders split an entry at its first `=`, Windows at the first one behind
the first character. The two agree on every entry except for those of drives,
whose names are empty to the builders. -/

theorem equals_not_mem_codeName (entry : Text) : equals ∉ codeName entry := by
  intro hmem
  simpa using List.mem_takeWhile_imp hmem

/-- Splitting loses nothing but the sign itself. -/
theorem codeName_append_codeValue {entry : Text} (h : equals ∈ entry) :
    codeName entry ++ equals :: codeValue entry = entry := by
  induction entry with
  | nil => cases h
  | cons c entry ih =>
      by_cases hc : c = equals
      · subst hc
        simp [codeName, codeValue]
      · have hrest := ih ((List.mem_cons.mp h).resolve_left (Ne.symm hc))
        unfold codeName codeValue at hrest ⊢
        rw [List.takeWhile_cons_of_pos (by simpa using hc),
          List.dropWhile_cons_of_pos (by simpa using hc), List.cons_append, hrest]

theorem codeName_entryText {name value : Text} (h : equals ∉ name) :
    codeName (entryText (name, value)) = name := by
  unfold codeName entryText
  rw [List.takeWhile_append_of_pos (fun c hc => by
    have hne : c ≠ equals := fun he => h (he ▸ hc)
    simpa using hne), List.takeWhile_cons_of_neg (by simp), List.append_nil]

theorem codeValue_entryText {name value : Text} (h : equals ∉ name) :
    codeValue (entryText (name, value)) = value := by
  unfold codeValue entryText
  rw [List.dropWhile_append_of_pos (fun c hc => by
    have hne : c ≠ equals := fun he => h (he ▸ hc)
    simpa using hne), List.dropWhile_cons_of_neg (by simp), List.tail_cons]

theorem codeName_eq_nil {entry : Text} (h : equals ∈ entry) : codeName entry = [] ↔ Drive entry := by
  cases entry with
  | nil => cases h
  | cons c entry =>
      unfold codeName Drive
      by_cases hc : c = equals
      · subst hc
        simp
      · rw [List.takeWhile_cons_of_pos (by simpa using hc)]
        simp [hc]

/-- Except for drives, Windows sees the same name and the same value as the builders. -/
theorem nameOf_of_not_drive {entry : Text} (h : ¬ Drive entry) :
    nameOf entry = codeName entry ∧ valueOf entry = codeValue entry := by
  cases entry with
  | nil => exact ⟨rfl, rfl⟩
  | cons c entry =>
      have hc : c ≠ equals := fun he => h (congrArg some he)
      show c :: codeName entry = (c :: entry).takeWhile (· ≠ equals) ∧
        codeValue entry = ((c :: entry).dropWhile (· ≠ equals)).tail
      rw [List.takeWhile_cons_of_pos (by simpa using hc),
        List.dropWhile_cons_of_pos (by simpa using hc)]
      exact ⟨rfl, rfl⟩

theorem toLower_eq_equals {c : Wide} : toLower c = equals ↔ c = equals := by
  constructor
  · intro h
    unfold toLower at h
    split_ifs at h with hletter
    · exfalso
      have hnat := congrArg UInt16.toNat h
      rw [UInt16.toNat_add] at hnat
      simp only [UInt16.le_iff_toNat_le] at hletter
      have h65 : (0x41 : UInt16).toNat = 65 := rfl
      have h90 : (0x5A : UInt16).toNat = 90 := rfl
      have h32 : (0x20 : UInt16).toNat = 32 := rfl
      have h61 : equals.toNat = 61 := rfl
      omega
    · exact h
  · rintro rfl
    rfl

/-- The name of a drive begins with the sign, and no other name does. -/
theorem drive_iff_nameKey {entry : Text} : Drive entry ↔ (nameKey entry).head? = some equals := by
  cases entry with
  | nil => rfl
  | cons c entry => simp [Drive, nameKey, nameOf, toLower_eq_equals]

theorem drive_congr {e f : Text} (h : nameKey e = nameKey f) : Drive e ↔ Drive f := by
  rw [drive_iff_nameKey, drive_iff_nameKey, h]

theorem splitEntry_filterMap (entries : List Text) :
    entries.filterMap splitEntry =
      (entries.filter (equals ∈ ·)).map fun e => (codeName e, codeValue e) := by
  induction entries with
  | nil => rfl
  | cons e entries ih =>
      by_cases he : equals ∈ e
      · rw [List.filterMap_cons_some (by rw [splitEntry, if_pos he]),
          List.filter_cons_of_pos (by simpa using he), ih, List.map_cons]
      · rw [List.filterMap_cons_none (by rw [splitEntry, if_neg he]),
          List.filter_cons_of_neg (by simpa using he), ih]

/-! ## The merged entries

The map keeps one entry for each key: the name of the first entry with this key
and the value of the last one. Everything later is read off `mem_mergedEntries`
and `nodup_mapKey`. -/

section

variable {fold : Wide → Wide} {entries : List Text}

/-- The key of an entry in the map. -/
def mapKey (fold : Wide → Wide) (entry : Text) : List ℕ := order fold (codeName entry)

/-- Every split entry is an entry, split. -/
theorem exists_of_split {p : Text × Text} (h : p ∈ entries.filterMap splitEntry) :
    ∃ e ∈ entries, equals ∈ e ∧ (codeName e, codeValue e) = p := by
  rw [splitEntry_filterMap] at h
  obtain ⟨e, he, rfl⟩ := List.mem_map.mp h
  obtain ⟨hmem, hequals⟩ := List.mem_filter.mp he
  exact ⟨e, hmem, by simpa using hequals, rfl⟩

/-- The first name of a key is that of an entry. -/
theorem exists_of_firstName {k : List ℕ} {x : Text}
    (h : firstName (order fold) (entries.filterMap splitEntry) k = some x) :
    ∃ e ∈ entries, equals ∈ e ∧ codeName e = x ∧ mapKey fold e = k := by
  obtain ⟨p, hp, rfl, hkey⟩ := mem_of_firstName h
  obtain ⟨e, he, hequals, rfl⟩ := exists_of_split hp
  exact ⟨e, he, hequals, rfl, hkey⟩

/-- The last value of a key is that of an entry. -/
theorem exists_of_lastValue {k : List ℕ} {y : Text}
    (h : lastValue (order fold) (entries.filterMap splitEntry) k = some y) :
    ∃ e ∈ entries, equals ∈ e ∧ codeValue e = y ∧ mapKey fold e = k := by
  obtain ⟨p, hp, rfl, hkey⟩ := mem_of_lastValue h
  obtain ⟨e, he, hequals, rfl⟩ := exists_of_split hp
  exact ⟨e, he, hequals, rfl, hkey⟩

theorem equals_not_mem_firstName {k : List ℕ} {x : Text}
    (h : firstName (order fold) (entries.filterMap splitEntry) k = some x) : equals ∉ x := by
  obtain ⟨e, -, -, rfl, -⟩ := exists_of_firstName h
  exact equals_not_mem_codeName e

theorem equals_not_mem_assigned {e : Text × Text}
    (h : e ∈ assignAll (order fold) (entries.filterMap splitEntry)) : equals ∉ e.1 :=
  equals_not_mem_firstName (((assignAll_spec _ _).2 e.1 e.2).mp h).1

/-- A merged entry has the name of the first entry of its key, and the value of the last one. -/
theorem mem_mergedEntries {t : Text} : t ∈ mergedEntries fold entries ↔ equals ∈ t ∧
    firstName (order fold) (entries.filterMap splitEntry) (mapKey fold t) = some (codeName t) ∧
    lastValue (order fold) (entries.filterMap splitEntry) (mapKey fold t) = some (codeValue t) := by
  obtain ⟨-, hmem⟩ := assignAll_spec (order fold) (entries.filterMap splitEntry)
  unfold mergedEntries
  rw [List.mem_map]
  constructor
  · rintro ⟨⟨x, y⟩, hxy, rfl⟩
    have hx := equals_not_mem_assigned hxy
    unfold mapKey
    rw [codeName_entryText hx, codeValue_entryText hx]
    exact ⟨by simp [entryText], (hmem x y).mp hxy⟩
  · rintro ⟨ht, hfirst, hlast⟩
    exact ⟨(codeName t, codeValue t), (hmem _ _).mpr ⟨hfirst, hlast⟩, codeName_append_codeValue ht⟩

theorem nodup_mapKey (fold : Wide → Wide) (entries : List Text) :
    ((mergedEntries fold entries).map (mapKey fold)).Nodup := by
  obtain ⟨hordered, -⟩ := assignAll_spec (order fold) (entries.filterMap splitEntry)
  have hkeys : (mergedEntries fold entries).map (mapKey fold) =
      (assignAll (order fold) (entries.filterMap splitEntry)).map fun e => order fold e.1 := by
    rw [mergedEntries, List.map_map]
    exact List.map_congr_left fun e he =>
      congrArg (order fold) (codeName_entryText (equals_not_mem_assigned he))
  rw [hkeys]
  exact List.pairwise_map.mpr (hordered.imp fun h => h.ne)

/-- The value of an entry that has the last word on its key. -/
theorem lastValue_of_last_entry (fold : Wide → Wide) (before : List Text) {after : List Text}
    {e : Text} (he : equals ∈ e)
    (hafter : ∀ f ∈ after, equals ∈ f → mapKey fold f ≠ mapKey fold e) :
    lastValue (order fold) ((before ++ e :: after).filterMap splitEntry) (mapKey fold e) =
      some (codeValue e) := by
  have hhere : splitEntry e = some (codeName e, codeValue e) := if_pos he
  rw [List.filterMap_append, List.filterMap_cons_some hhere]
  refine lastValue_of_last (order fold) (codeName e, codeValue e) ?_
  intro p hp
  obtain ⟨f, hf, hequals, rfl⟩ := exists_of_split hp
  exact hafter f hf hequals

/-- Every key of the entries is there. -/
theorem exists_merged (fold : Wide → Wide) {e : Text} (he : e ∈ entries) (hequals : equals ∈ e) :
    ∃ t ∈ mergedEntries fold entries, mapKey fold t = mapKey fold e := by
  cases hfirst : firstName (order fold) (entries.filterMap splitEntry) (mapKey fold e) with
  | none =>
      have hsplit : (codeName e, codeValue e) ∈ entries.filterMap splitEntry :=
        List.mem_filterMap.mpr ⟨e, he, if_pos hequals⟩
      exact absurd rfl (firstName_eq_none.mp hfirst _ hsplit)
  | some x =>
      obtain ⟨y, hlast⟩ := exists_lastValue hfirst
      have hx := equals_not_mem_firstName hfirst
      have hkey : mapKey fold (entryText (x, y)) = mapKey fold e := by
        unfold mapKey
        rw [codeName_entryText hx]
        exact key_of_firstName hfirst
      refine ⟨entryText (x, y), mem_mergedEntries.mpr ⟨by simp [entryText], ?_, ?_⟩, hkey⟩
      · rw [hkey, codeName_entryText hx]
        exact hfirst
      · rw [hkey, codeValue_entryText hx]
        exact hlast

/-- Case is all that the names of one key differ in. -/
def FoldsCase (fold : Wide → Wide) : Prop :=
  ∀ a b : Text, order fold a = order fold b → a.map toLower = b.map toLower

theorem order_toLower (name : Text) : order toLower name = (name.map toLower).map UInt16.toNat := by
  simp [order]

theorem foldsCase_toLower : FoldsCase toLower := by
  intro a b h
  rw [order_toLower, order_toLower] at h
  exact List.map_injective_iff.mpr (fun _ _ => UInt16.toNat_inj.mp) h

theorem foldsCase_id : FoldsCase id := by
  intro a b h
  rw [List.map_injective_iff.mpr (fun _ _ => UInt16.toNat_inj.mp) h]

theorem length_of_mapKey {e f : Text} (h : mapKey fold e = mapKey fold f) :
    (codeName e).length = (codeName f).length := by
  simpa [mapKey, order] using congrArg List.length h

theorem drive_iff_of_mapKey {e f : Text} (he : equals ∈ e) (hf : equals ∈ f)
    (h : mapKey fold e = mapKey fold f) : Drive e ↔ Drive f := by
  rw [← codeName_eq_nil he, ← codeName_eq_nil hf, ← List.length_eq_zero_iff,
    ← List.length_eq_zero_iff, length_of_mapKey h]

/-- Entries other than drives have one name to Windows where they have one key. -/
theorem nameKey_eq_of_mapKey (hfold : FoldsCase fold) {e f : Text} (he : equals ∈ e)
    (hf : equals ∈ f) (hdrive : ¬ Drive e) (h : mapKey fold e = mapKey fold f) :
    nameKey e = nameKey f := by
  have hdrive' := (drive_iff_of_mapKey he hf h).not.mp hdrive
  unfold nameKey
  rw [(nameOf_of_not_drive hdrive).1, (nameOf_of_not_drive hdrive').1]
  exact hfold _ _ h

/-- Entries of one key and one value are read alike. -/
theorem reads_alike (hfold : FoldsCase fold) {e f : Text} (he : equals ∈ e) (hf : equals ∈ f)
    (h : mapKey fold e = mapKey fold f) (hvalue : codeValue e = codeValue f) :
    nameKey e = nameKey f ∧ valueOf e = valueOf f := by
  by_cases hdrive : Drive e
  · have hsame : e = f := by
      rw [← codeName_append_codeValue he, ← codeName_append_codeValue hf, hvalue,
        (codeName_eq_nil he).mpr hdrive,
        (codeName_eq_nil hf).mpr ((drive_iff_of_mapKey he hf h).mp hdrive)]
    rw [hsame]
    exact ⟨rfl, rfl⟩
  · have hdrive' := (drive_iff_of_mapKey he hf h).not.mp hdrive
    refine ⟨nameKey_eq_of_mapKey hfold he hf hdrive h, ?_⟩
    rw [(nameOf_of_not_drive hdrive).2, (nameOf_of_not_drive hdrive').2, hvalue]

/-- What is read from a merged entry is read from one of the entries. -/
theorem exists_alike (hfold : FoldsCase fold) {t : Text} (ht : t ∈ mergedEntries fold entries) :
    ∃ w ∈ entries, equals ∈ w ∧ mapKey fold w = mapKey fold t ∧ nameKey t = nameKey w ∧
      codeValue t = codeValue w := by
  obtain ⟨hequals, -, hlast⟩ := mem_mergedEntries.mp ht
  obtain ⟨w, hw, hw', hvalue, hkey⟩ := exists_of_lastValue hlast
  exact ⟨w, hw, hw', hkey, (reads_alike hfold hequals hw' hkey.symm hvalue.symm).1, hvalue.symm⟩

end

/-! ## When the merge is right

What was meant is said without the map: overrides take the place of entries with
their name, all others stay. The two directions of `effective_iff` are
`effective_of_mergeable`, and `mergeable_of_effective` with
`recognized_of_effective`. -/

section

variable {fold : Wide → Wide} {parent overrides : List Text}

/-- Where all drives are one and names that differ in case are the same to the
builder, the keys of the map are the names that Windows sees. -/
theorem mapKey_eq_iff (hfold : FoldsCase fold) (hmergeable : Mergeable parent overrides)
    (hrecognized : Recognized fold (parent ++ overrides)) {e f : Text}
    (he : e ∈ parent ++ overrides) (hf : f ∈ parent ++ overrides) (he' : equals ∈ e)
    (hf' : equals ∈ f) : mapKey fold e = mapKey fold f ↔ nameKey e = nameKey f := by
  constructor
  · intro h
    by_cases hdrive : Drive e
    · exact hmergeable.oneDrive e he f hf hdrive ((drive_iff_of_mapKey he' hf' h).mp hdrive)
    · exact nameKey_eq_of_mapKey hfold he' hf' hdrive h
  · exact hrecognized e he f hf he' hf'

theorem effective_of_mergeable (hfold : FoldsCase fold) (hoverrides : ∀ o ∈ overrides, equals ∈ o)
    (hmergeable : Mergeable parent overrides) (hrecognized : Recognized fold (parent ++ overrides)) :
    Effective parent overrides (mergedEntries fold (parent ++ overrides)) := by
  have hkeys := fun {e f : Text} => mapKey_eq_iff hfold hmergeable hrecognized (e := e) (f := f)
  have hnodup := nodup_mapKey fold (parent ++ overrides)
  refine { one := ?_, overridden := ?_, kept := ?_, only := ?_ }
  · refine List.Nodup.map_on ?_ (List.Nodup.of_map _ hnodup)
    intro s hs t ht hname
    obtain ⟨v, hv, hv', hvs, hvname, -⟩ := exists_alike hfold hs
    obtain ⟨w, hw, hw', hwt, hwname, -⟩ := exists_alike hfold ht
    apply List.inj_on_of_nodup_map hnodup hs ht
    rw [← hvs, ← hwt]
    exact (hkeys hv hw hv' hw').mpr (by rw [← hvname, ← hwname, hname])
  · intro before o after hsplit hlater
    have ho : o ∈ overrides := by
      rw [hsplit]
      simp
    have hmem : o ∈ parent ++ overrides := List.mem_append_right _ ho
    have ho' := hoverrides o ho
    obtain ⟨t, ht, hkey⟩ := exists_merged fold hmem ho'
    obtain ⟨ht', -, hlast⟩ := mem_mergedEntries.mp ht
    -- the override comes last of its key
    have hafter : ∀ f ∈ after, equals ∈ f → mapKey fold f ≠ mapKey fold o := by
      intro f hf hf' hsame
      have hmem' : f ∈ parent ++ overrides := by
        rw [hsplit]
        simp [hf]
      exact hlater f hf ((hkeys hmem' hmem hf' ho').mp hsame)
    have hvalue := lastValue_of_last_entry fold (parent ++ before) ho' hafter
    rw [List.append_assoc, ← hsplit, ← hkey, hlast, Option.some.injEq] at hvalue
    exact ⟨t, ht, reads_alike hfold ht' ho' hkey hvalue⟩
  · intro e he hfree
    have hbare : ¬ ∃ o ∈ overrides, nameKey o = nameKey e := fun ⟨o, ho, h⟩ => hfree o ho h
    have he' := (hmergeable.separated e he).resolve_right hbare
    have hmem : e ∈ parent ++ overrides := List.mem_append_left _ he
    obtain ⟨t, ht, hkey⟩ := exists_merged fold hmem he'
    -- whatever has the key of the entry is the entry
    have hsame : ∀ f ∈ parent ++ overrides, equals ∈ f → mapKey fold f = mapKey fold e → f = e := by
      intro f hf hf' h
      have hname := (hkeys hf hmem hf' he').mp h
      rcases List.mem_append.mp hf with hparent | hoverride
      · exact ((hmergeable.once e he f hparent hname.symm).resolve_right hbare).symm
      · exact absurd hname (hfree f hoverride)
    obtain ⟨ht', hfirst, hlast⟩ := mem_mergedEntries.mp ht
    obtain ⟨u, hu, hu', hname, hukey⟩ := exists_of_firstName hfirst
    obtain ⟨w, hw, hw', hvalue, hwkey⟩ := exists_of_lastValue hlast
    obtain rfl := hsame u hu hu' (hukey.trans hkey)
    obtain rfl := hsame w hw hw' (hwkey.trans hkey)
    have hte : t = w := by
      rw [← codeName_append_codeValue ht', ← codeName_append_codeValue hw', hname, hvalue]
    rwa [← hte]
  · intro t ht
    obtain ⟨w, hw, -, -, hname, -⟩ := exists_alike hfold ht
    exact ⟨w, hw, hname.symm⟩

/-- What has an override has a last one. -/
theorem exists_last_override {o : Text} (ho : o ∈ overrides) :
    ∃ before last after, overrides = before ++ last :: after ∧ nameKey last = nameKey o ∧
      ∀ later ∈ after, nameKey later ≠ nameKey last := by
  induction overrides generalizing o with
  | nil => cases ho
  | cons first rest ih =>
      by_cases hlater : ∃ p ∈ rest, nameKey p = nameKey o
      · obtain ⟨p, hp, hname⟩ := hlater
        obtain ⟨before, last, after, rfl, hlast, hnone⟩ := ih hp
        exact ⟨first :: before, last, after, rfl, hlast.trans hname, hnone⟩
      · have hfirst : o = first := (List.mem_cons.mp ho).resolve_right fun h => hlater ⟨o, h, rfl⟩
        subst hfirst
        exact ⟨[], o, rest, rfl, rfl, fun p hp h => hlater ⟨p, hp, h⟩⟩

/-- Every variable that there should be is there. -/
theorem Effective.exists_entry {block : List Text} (h : Effective parent overrides block) {e : Text}
    (he : e ∈ parent ++ overrides) : ∃ t ∈ block, nameKey t = nameKey e := by
  by_cases hfree : ∃ o ∈ overrides, nameKey o = nameKey e
  · obtain ⟨o, ho, hname⟩ := hfree
    obtain ⟨before, last, after, hsplit, hlast, hlater⟩ := exists_last_override ho
    obtain ⟨t, ht, htname, -⟩ := h.overridden before last after hsplit hlater
    exact ⟨t, ht, htname.trans (hlast.trans hname)⟩
  · rcases List.mem_append.mp he with hparent | hoverride
    · exact ⟨e, h.kept e hparent fun o ho hname => hfree ⟨o, ho, hname⟩, rfl⟩
    · exact absurd ⟨e, hoverride, rfl⟩ hfree

theorem mergeable_of_effective
    (h : Effective parent overrides (mergedEntries fold (parent ++ overrides))) :
    Mergeable parent overrides where
  separated e he := by
    by_contra hbad
    obtain ⟨hequals, hfree⟩ := not_or.mp hbad
    exact hequals (mem_mergedEntries.mp
      (h.kept e he fun o ho hname => hfree ⟨o, ho, hname⟩)).1
  once e he f hf hname := by
    by_contra hbad
    obtain ⟨hne, hfree⟩ := not_or.mp hbad
    apply hne
    exact List.inj_on_of_nodup_map h.one (h.kept e he fun o ho ho' => hfree ⟨o, ho, ho'⟩)
      (h.kept f hf fun o ho ho' => hfree ⟨o, ho, ho'.trans hname.symm⟩) hname
  oneDrive e he f hf hdrive hdrive' := by
    obtain ⟨s, hs, hsname⟩ := h.exists_entry he
    obtain ⟨t, ht, htname⟩ := h.exists_entry hf
    have hempty : ∀ {u v : Text}, u ∈ mergedEntries fold (parent ++ overrides) →
        nameKey u = nameKey v → Drive v → mapKey fold u = [] := by
      intro u v hu hname hv
      have hu' := (drive_congr hname).mpr hv
      rw [mapKey, (codeName_eq_nil (mem_mergedEntries.mp hu).1).mpr hu']
      rfl
    have hsame : s = t := List.inj_on_of_nodup_map (nodup_mapKey fold (parent ++ overrides)) hs ht
      ((hempty hs hsname hdrive).trans (hempty ht htname hdrive').symm)
    rw [← hsname, ← htname, hsame]

theorem recognized_of_effective (hfold : FoldsCase fold)
    (h : Effective parent overrides (mergedEntries fold (parent ++ overrides))) :
    Recognized fold (parent ++ overrides) := by
  intro e he f hf he' hf' hname
  by_cases hdrive : Drive e
  · rw [(codeName_eq_nil he').mpr hdrive, (codeName_eq_nil hf').mpr ((drive_congr hname).mp hdrive)]
  · have hdrive' := (drive_congr hname).not.mp hdrive
    obtain ⟨s, hs, hskey⟩ := exists_merged fold he he'
    obtain ⟨t, ht, htkey⟩ := exists_merged fold hf hf'
    have hsname := nameKey_eq_of_mapKey hfold he' (mem_mergedEntries.mp hs).1 hdrive hskey.symm
    have htname := nameKey_eq_of_mapKey hfold hf' (mem_mergedEntries.mp ht).1 hdrive' htkey.symm
    have hsame : s = t := List.inj_on_of_nodup_map h.one hs ht
      (hsname.symm.trans (hname.trans htname))
    rw [hsame] at hskey
    exact hskey.symm.trans htkey

theorem effective_iff (hfold : FoldsCase fold) (hoverrides : ∀ o ∈ overrides, equals ∈ o) :
    Effective parent overrides (mergedEntries fold (parent ++ overrides)) ↔
      Mergeable parent overrides ∧ Recognized fold (parent ++ overrides) :=
  ⟨fun h => ⟨mergeable_of_effective h, recognized_of_effective hfold h⟩,
    fun h => effective_of_mergeable hfold hoverrides h.1 h.2⟩

/-- Two blocks that are as they should be are the same to the child. -/
theorem Effective.same {block block' : List Text} (h : Effective parent overrides block)
    (h' : Effective parent overrides block') : SameEnvironment block block' := by
  have hone : ∀ {b b' : List Text}, Effective parent overrides b → Effective parent overrides b' →
      ∀ e ∈ b, ∃ f ∈ b', nameKey f = nameKey e ∧ valueOf f = valueOf e := by
    intro b b' hb hb' e he
    obtain ⟨w, hw, hname⟩ := hb.only e he
    by_cases hfree : ∃ o ∈ overrides, nameKey o = nameKey w
    · obtain ⟨o, ho, honame⟩ := hfree
      obtain ⟨before, last, after, hsplit, hlast, hlater⟩ := exists_last_override ho
      obtain ⟨s, hs, hsname, hsvalue⟩ := hb.overridden before last after hsplit hlater
      obtain ⟨t, ht, htname, htvalue⟩ := hb'.overridden before last after hsplit hlater
      have hse : s = e := List.inj_on_of_nodup_map hb.one hs he
        (hsname.trans (hlast.trans (honame.trans hname)))
      rw [← hse]
      exact ⟨t, ht, htname.trans hsname.symm, htvalue.trans hsvalue.symm⟩
    · have hbare : ∀ o ∈ overrides, nameKey o ≠ nameKey w := fun o ho h => hfree ⟨o, ho, h⟩
      have hparent := (List.mem_append.mp hw).resolve_right fun ho => hbare w ho rfl
      have hwe : w = e := List.inj_on_of_nodup_map hb.one (hb.kept w hparent hbare) he hname
      rw [← hwe]
      exact ⟨w, hb'.kept w hparent hbare, rfl, rfl⟩
  exact ⟨hone h h', hone h' h⟩

end

/-! ## Both builders

The two builders differ in the key only: one folds case, the other does not. -/

/-- The entries of the parent. -/
def parentEntries (parent : Option (List Wide)) : List Text := (parent.map readBlock).getD []

/-- The overrides that have a `=`; others are none. -/
def assignments (overrides : List (List UInt8)) : List Text :=
  (overrides.map (List.map widen)).filter (equals ∈ ·)

/-- The names of all entries, up to the first `=`, differ not only in case. -/
def SpelledAlike (parent overrides : List Text) : Prop :=
  ∀ e ∈ parent ++ overrides, ∀ f ∈ parent ++ overrides, equals ∈ e → equals ∈ f →
    nameKey e = nameKey f → codeName e = codeName f

theorem mergedEntries_assignments (fold : Wide → Wide) (parent : List Text)
    (overrides : List (List UInt8)) :
    mergedEntries fold (parent ++ overrides.map (List.map widen)) =
      mergedEntries fold (parent ++ assignments overrides) := by
  unfold mergedEntries assignments
  rw [splitEntry_filterMap, splitEntry_filterMap, List.filter_append, List.filter_append,
    List.filter_filter]
  simp only [Bool.and_self]

/-- The child reads what was merged. -/
theorem readBlock_buildEnvBlock (fold : Wide → Wide) (parent : Option (List Wide))
    {overrides : List (List UInt8)} (h : ∀ o ∈ overrides, 0 ∉ o) :
    readBlock (buildEnvBlock fold parent overrides) =
      mergedEntries fold (parentEntries parent ++ assignments overrides) := by
  rw [← mergedEntries_assignments]
  refine readBlock_written ?_
  intro t ht
  obtain ⟨hequals, hfirst, hlast⟩ := mem_mergedEntries.mp ht
  obtain ⟨u, hu, -, hname, -⟩ := exists_of_firstName hfirst
  obtain ⟨w, hw, -, hvalue, -⟩ := exists_of_lastValue hlast
  have hzero : ∀ e ∈ parentEntries parent ++ overrides.map (List.map widen), 0 ∉ e := by
    intro e he
    rcases List.mem_append.mp he with hparent | hoverride
    · cases parent with
      | none => cases hparent
      | some block => exact (of_mem_readFrom List.not_mem_nil e hparent).2
    · obtain ⟨o, ho, rfl⟩ := List.mem_map.mp hoverride
      intro hmem
      obtain ⟨c, hc, hwide⟩ := List.mem_map.mp hmem
      exact widen_ne_zero (fun hzero => h o ho (hzero ▸ hc)) hwide
  constructor
  · rintro rfl
    cases hequals
  · rw [← codeName_append_codeValue hequals, ← hname, ← hvalue, List.mem_append, List.mem_cons]
    rintro (hmem | hmem | hmem)
    · exact hzero u hu ((List.takeWhile_sublist _).subset hmem)
    · cases hmem
    · exact hzero w hw ((List.dropWhile_sublist _).subset (List.mem_of_mem_tail hmem))

theorem recognized_id {parent overrides : List Text} :
    Recognized id (parent ++ overrides) ↔ SpelledAlike parent overrides := by
  have hinj : Function.Injective (order id) :=
    List.map_injective_iff.mpr fun _ _ => UInt16.toNat_inj.mp
  unfold Recognized SpelledAlike
  simp only [hinj.eq_iff]

/-- To the process runner, case never makes a difference. -/
theorem recognized_toLower (entries : List Text) : Recognized toLower entries := by
  intro e _ f _ he hf hname
  by_cases hdrive : Drive e
  · rw [(codeName_eq_nil he).mpr hdrive, (codeName_eq_nil hf).mpr ((drive_congr hname).mp hdrive)]
  · have hdrive' := (drive_congr hname).not.mp hdrive
    unfold nameKey at hname
    rw [(nameOf_of_not_drive hdrive).1, (nameOf_of_not_drive hdrive').1] at hname
    rw [order_toLower, order_toLower, hname]

/-- Both builders give the child one and the same environment, the one that was
meant, exactly when entries of the parent that nothing overrides have a `=` and
are alone with their name, all drives are one, and no two names differ only in
case. The process runner does without the last condition. -/
theorem envBlocks_effective_iff (parent : Option (List Wide)) {overrides : List (List UInt8)}
    (h : ∀ o ∈ overrides, 0 ∉ o) :
    (Effective (parentEntries parent) (assignments overrides)
        (readBlock (ProcessRunner.buildEnvBlock parent overrides)) ↔
      Mergeable (parentEntries parent) (assignments overrides)) ∧
    (Effective (parentEntries parent) (assignments overrides)
          (readBlock (ProcessRunner.buildEnvBlock parent overrides)) ∧
        Effective (parentEntries parent) (assignments overrides)
          (readBlock (ChildProcess.buildEnvBlock parent overrides)) ∧
        SameEnvironment (readBlock (ProcessRunner.buildEnvBlock parent overrides))
          (readBlock (ChildProcess.buildEnvBlock parent overrides)) ↔
      Mergeable (parentEntries parent) (assignments overrides) ∧
        SpelledAlike (parentEntries parent) (assignments overrides)) := by
  have hassigned : ∀ o ∈ assignments overrides, equals ∈ o :=
    fun o ho => by simpa using (List.mem_filter.mp ho).2
  have hrunner : Effective (parentEntries parent) (assignments overrides)
      (readBlock (ProcessRunner.buildEnvBlock parent overrides)) ↔
      Mergeable (parentEntries parent) (assignments overrides) := by
    rw [ProcessRunner.buildEnvBlock, readBlock_buildEnvBlock toLower parent h,
      effective_iff foldsCase_toLower hassigned]
    exact and_iff_left (recognized_toLower _)
  have hchild : Effective (parentEntries parent) (assignments overrides)
      (readBlock (ChildProcess.buildEnvBlock parent overrides)) ↔
      Mergeable (parentEntries parent) (assignments overrides) ∧
        SpelledAlike (parentEntries parent) (assignments overrides) := by
    rw [ChildProcess.buildEnvBlock, readBlock_buildEnvBlock id parent h,
      effective_iff foldsCase_id hassigned, recognized_id]
  refine ⟨hrunner, ?_⟩
  constructor
  · -- the second builder asks for more than the first
    rintro ⟨-, heffective, -⟩
    exact hchild.mp heffective
  · intro hgood
    have hfirst := hrunner.mpr hgood.1
    have hsecond := hchild.mpr hgood
    exact ⟨hfirst, hsecond, hfirst.same hsecond⟩

/-- A parent with `A=1`, and `a=2` for the child. -/
theorem overridden_effective :
    Effective [[0x41, 0x3D, 0x31]] [[0x61, 0x3D, 0x32]]
      (readBlock (ProcessRunner.buildEnvBlock (some [0x41, 0x3D, 0x31, 0, 0]) [[0x61, 0x3D, 0x32]])) :=
  (envBlocks_effective_iff (some [0x41, 0x3D, 0x31, 0, 0])
    (show ∀ o ∈ [[0x61, 0x3D, 0x32]], 0 ∉ o by decide)).1.mpr {
      separated := by decide
      once := by decide
      oneDrive := by unfold Drive; decide }

/-- A parent with `=C:=C:\` and `=D:=D:\`, and `X=1` for the child: of the two drives one is left. -/
theorem drives_lost :
    ¬ ∀ (parent : Option (List Wide)) (overrides : List (List UInt8)), (∀ o ∈ overrides, 0 ∉ o) →
      Effective (parentEntries parent) (assignments overrides)
          (readBlock (ProcessRunner.buildEnvBlock parent overrides)) ∧
        Effective (parentEntries parent) (assignments overrides)
          (readBlock (ChildProcess.buildEnvBlock parent overrides)) ∧
        SameEnvironment (readBlock (ProcessRunner.buildEnvBlock parent overrides))
          (readBlock (ChildProcess.buildEnvBlock parent overrides)) := by
  intro h
  have hkept := (h (some [0x3D, 0x43, 0x3A, 0x3D, 0x43, 0x3A, 0x5C, 0, 0x3D, 0x44, 0x3A, 0x3D, 0x44,
    0x3A, 0x5C, 0, 0]) [[0x58, 0x3D, 0x31]] (by decide)).1.kept
      [0x3D, 0x43, 0x3A, 0x3D, 0x43, 0x3A, 0x5C] (by decide) (by decide)
  revert hkept
  decide

end SpatialPlatform.Adapters.Process
