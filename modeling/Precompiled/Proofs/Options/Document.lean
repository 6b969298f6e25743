import Precompiled.Proofs.Artifact.Stages
import Precompiled.Proofs.Load.Outcome
import Precompiled.Proofs.Options.Entries
import Precompiled.Proofs.Toml.Document

/-!
# The meaning of option files

A text is an option file if every value in it suits its key, and if the range of versions, with the
defaults for what is not there, is not empty and lies within those that exist. A value that does not
suit is found before the range is looked at. Neither the order of the keys nor how they and the
integers are written plays a part.
-/

namespace Precompiled.LoadOptions

open Artifact (Reader supportedVersions)
open Dict (Distinct)
open Toml (Blank Content Digit KeyText Writes Written blank_nil)

/-- The range of versions is not empty and lies within those that exist. -/
def InWindow (o : LoadOptions) : Prop :=
  1 ≤ o.versions.min ∧ o.versions.min ≤ o.versions.max ∧ o.versions.max ≤ 5

variable {entries other : Toml.Entries} {fault : Unreadable} {o : LoadOptions}

-- ---------------------------------------------------------------------------
-- Tables
-- ---------------------------------------------------------------------------

theorem ofTable_ok (hd : Distinct entries) :
    ofTable entries = .ok o ↔ Describes entries {} o ∧ InWindow o := by
  simp only [ofTable, bind_ok, mapError_ok, pure_ok, ofEntries_ok hd]
  constructor
  · rintro ⟨o', h, u, hcheck, rfl⟩
    exact ⟨h, check_ok.mp hcheck⟩
  · rintro ⟨h, hwindow⟩
    exact ⟨o, h, (), check_ok.mpr hwindow, rfl⟩

theorem ofTable_unreadable :
    ofTable entries = .error (.unreadable fault) ↔
      FirstFault (fun _ entry => Refuses entry.1 entry.2) entries fault := by
  rw [ofTable, bind_error, mapError_error, ← ofEntries_error]
  constructor
  · rintro (⟨fault', h, heq⟩ | ⟨o, -, h⟩)
    · cases heq
      exact h
    · rcases bind_error.mp h with h | ⟨u, -, h⟩
      · obtain ⟨invalid, -, heq⟩ := mapError_error.mp h
        cases heq
      · cases h
  · intro h
    exact .inl ⟨fault, h, rfl⟩

theorem ofTable_invalid {fault : Invalid} (hd : Distinct entries) :
    ofTable entries = .error (.invalid fault) ↔
      ∃ o, Describes entries {} o ∧ o.check = .error fault := by
  simp only [ofTable, bind_error, mapError_error, mapError_ok, ofEntries_ok hd]
  constructor
  · rintro (⟨fault', -, heq⟩ | ⟨o, h, ⟨fault', hcheck, heq⟩ | ⟨u, -, heq⟩⟩)
    · cases heq
    · cases heq
      exact ⟨o, h, hcheck⟩
    · cases heq
  · rintro ⟨o, h, hcheck⟩
    exact .inr ⟨o, h, .inl ⟨fault, hcheck, rfl⟩⟩

theorem ofTable_unreadable_iff (hd : Distinct entries) :
    (∃ fault, ofTable entries = .error (.unreadable fault)) ↔
      ∃ entry ∈ entries, ¬ Suits entry.1 entry.2 := by
  have hnone : (∃ entry ∈ entries, ¬ Suits entry.1 entry.2) ↔ ¬ ∃ o, Describes entries {} o := by
    rw [describes_iff_suits hd]
    simp
  rw [hnone]
  constructor
  · rintro ⟨fault, h⟩ ⟨o, hdesc⟩
    have herror := ofEntries_error.mpr (ofTable_unreadable.mp h)
    cases herror.symm.trans ((ofEntries_ok hd).mpr hdesc)
  · intro h
    cases hentries : ofEntries entries with
    | ok o => exact absurd ⟨o, (ofEntries_ok hd).mp hentries⟩ h
    | error fault => exact ⟨fault, ofTable_unreadable.mpr (ofEntries_error.mp hentries)⟩

theorem ofTable_invalid_iff (hd : Distinct entries) :
    (∃ fault, ofTable entries = .error (.invalid fault)) ↔
      ∃ o, Describes entries {} o ∧ ¬ InWindow o := by
  constructor
  · rintro ⟨fault, h⟩
    obtain ⟨o, hdesc, hcheck⟩ := (ofTable_invalid hd).mp h
    refine ⟨o, hdesc, fun hwindow => ?_⟩
    cases hcheck.symm.trans (check_ok.mpr hwindow : o.check = .ok ())
  · rintro ⟨o, hdesc, hwindow⟩
    cases hcheck : o.check with
    | ok u => exact absurd (check_ok.mp hcheck) hwindow
    | error fault => exact ⟨fault, (ofTable_invalid hd).mpr ⟨o, hdesc, hcheck⟩⟩

theorem InWindow.min_mem (h : InWindow o) : o.versions.min ∈ o.reader.versions :=
  ⟨UInt32.le_refl _, h.2.1⟩

theorem InWindow.supported (h : InWindow o) {version : UInt32}
    (hv : version ∈ o.reader.versions) : version ∈ supportedVersions :=
  ⟨UInt32.le_trans h.1 hv.1, UInt32.le_trans hv.2 h.2.2⟩

/-- Results that do not differ but in which unreadable entry comes first. -/
inductive Alike : Except Error LoadOptions → Except Error LoadOptions → Prop
  | options (o : LoadOptions) : Alike (.ok o) (.ok o)
  | invalid (fault : Invalid) : Alike (.error (.invalid fault)) (.error (.invalid fault))
  | unreadable (fault other : Unreadable) :
      Alike (.error (.unreadable fault)) (.error (.unreadable other))

theorem Alike.ok {r r' : Except Error LoadOptions} (h : Alike r r') (hr : r = .ok o) :
    r' = .ok o := by
  cases h with
  | options _ => exact hr
  | invalid _ => cases hr
  | unreadable _ _ => cases hr

theorem alike_of_perm (hd : Distinct entries) (hp : other.Perm entries) :
    Alike (ofTable entries) (ofTable other) := by
  have hd' : Distinct other := hd.perm hp
  -- Whether the entries make options, and which, does not depend on their order; which of them is
  -- found unreadable does.
  cases h : ofEntries entries with
  | ok o =>
    have hdesc := (ofEntries_ok hd).mp h
    have hdesc' := hdesc.perm hp
    cases hc : o.check with
    | ok u =>
      have hwindow : InWindow o := check_ok.mp hc
      rw [(ofTable_ok hd).mpr ⟨hdesc, hwindow⟩, (ofTable_ok hd').mpr ⟨hdesc', hwindow⟩]
      exact .options o
    | error fault =>
      rw [(ofTable_invalid hd).mpr ⟨o, hdesc, hc⟩, (ofTable_invalid hd').mpr ⟨o, hdesc', hc⟩]
      exact .invalid fault
  | error fault =>
    cases h' : ofEntries other with
    | ok o =>
      have hdesc := ((ofEntries_ok hd').mp h').perm hp.symm
      cases h.symm.trans ((ofEntries_ok hd).mpr hdesc)
    | error fault' =>
      rw [ofTable_unreadable.mpr (ofEntries_error.mp h),
        ofTable_unreadable.mpr (ofEntries_error.mp h')]
      exact .unreadable fault fault'

theorem parse_of_parse? {text : String} (h : Toml.parse? text = some entries) :
    parse text = ofTable entries := by
  -- Rewriting with the equation of `parse` would have the reading of the document evaluated.
  delta parse
  rw [h]

/-- What an option file means, whatever table it holds. No key comes twice in it. Its entries make
options exactly if each value suits its key; then the options are what the entries say, with the
defaults for what they do not say, and they are accepted exactly if the range of versions is not
empty and lies within those that exist. Otherwise the first entry that does not suit is the fault,
whatever the range is. A text with the same pairs in another order comes to the same, and so does
one that has them on lines, however keys and integers are written there. What is accepted makes a
reader that takes the versions of the range and no others. -/
theorem parse_exact {text : String} (h : Toml.parse? text = some entries) :
    Distinct entries ∧
    (∀ o, parse text = .ok o ↔ Describes entries {} o ∧ InWindow o) ∧
    ((∃ o, Describes entries {} o) ↔ ∀ entry ∈ entries, Suits entry.1 entry.2) ∧
    ((∃ fault, parse text = .error (.unreadable fault)) ↔
      ∃ entry ∈ entries, ¬ Suits entry.1 entry.2) ∧
    (∀ fault, parse text = .error (.unreadable fault) ↔
      FirstFault (fun _ entry => Refuses entry.1 entry.2) entries fault) ∧
    ((∃ fault, parse text = .error (.invalid fault)) ↔
      ∃ o, Describes entries {} o ∧ ¬ InWindow o) ∧
    (∀ same entries', Toml.parse? same = some entries' → entries'.Perm entries →
      Alike (parse text) (parse same)) ∧
    (∀ same entries', Toml.Writes same.toList entries' → entries'.Perm entries →
      Alike (parse text) (parse same)) ∧
    ∀ o, parse text = .ok o →
      (∀ files dir version, o.reader.readVersion files dir = .ok version ↔
        Reader.States files dir version ∧
          o.versions.min ≤ version ∧ version ≤ o.versions.max) ∧
      o.versions.min ∈ o.reader.versions ∧
      ∀ version ∈ o.reader.versions, version ∈ supportedVersions := by
  have hd : Distinct entries := Toml.distinct_of_parse? h
  rw [parse_of_parse? h]
  have hsame {same : String} {entries' : Toml.Entries} (hs : Toml.parse? same = some entries')
      (hp : entries'.Perm entries) : Alike (ofTable entries) (parse same) := by
    rw [parse_of_parse? hs]
    exact alike_of_perm hd hp
  refine ⟨hd, fun o => ofTable_ok hd, describes_iff_suits hd, ofTable_unreadable_iff hd,
    fun fault => ofTable_unreadable, ofTable_invalid_iff hd, fun same entries' => hsame,
    fun same entries' hw hp => hsame (Toml.parse?_writes hw (hd.perm hp)) hp, fun o ho => ?_⟩
  have hwindow : InWindow o := ((ofTable_ok hd).mp ho).2
  exact ⟨fun files dir version => Reader.readVersion_ok, hwindow.min_mem,
    fun version => hwindow.supported⟩

/-- The order, the marks around a key, comments and a hexadecimal spelling do not matter. A negative
version is a fault of the text although a range that ends before the first version is one, too, and
stands before it; by itself such a range is reported as what it is. -/
theorem parse_exact_of_spellings :
    let text := "min_format_version = 2\nverify_checksum = false"
    let same := "'verify_checksum'=false # off\r\n\n\t\"min_format_version\" = 0x0_2\n"
    let faulty := "max_format_version = 0\nmin_format_version = -1"
    parse text = .ok { versions := ⟨2, 5⟩, verify := false } ∧
      parse same = .ok { versions := ⟨2, 5⟩, verify := false } ∧
      parse faulty = .error (.unreadable (.outOfRange "min_format_version" (-1))) ∧
      ∃ fault, parse "max_format_version = 0" = .error (.invalid fault) := by
  intro text same faulty
  have hmin : KeyText "min_format_version".toList "min_format_version" :=
    .bare (by decide) (List.all_eq_true.mp rfl)
  have hmax : KeyText "max_format_version".toList "max_format_version" :=
    .bare (by decide) (List.all_eq_true.mp rfl)
  have hverify : KeyText "verify_checksum".toList "verify_checksum" :=
    .bare (by decide) (List.all_eq_true.mp rfl)
  have hspace : Blank [' '] := List.all_eq_true.mp rfl
  have hzero : Written ['0'] (.integer 0) := .integer (.decimal .none .zero) (by decide)
  have htwo : Written ['2'] (.integer 2) :=
    .integer (.decimal .none (.row (.last (by decide : Digit 10 '2' 2)) (by decide))) (by decide)
  have hless : Written ['-', '1'] (.integer (-1)) :=
    .integer (.decimal .minus (.row (.last (by decide : Digit 10 '1' 1)) (by decide))) (by decide)
  have hhex : Written ['0', 'x', '0', '_', '2'] (.integer 2) :=
    .integer (.based .hexadecimal (.scored (by decide : Digit 16 '0' 0)
      (.last (by decide : Digit 16 '2' 2)))) (by decide)
  have hline {key chars : List Char} {name : String} {item : Toml.Item} (hk : KeyText key name)
      (hw : Written chars item) :
      Content (key ++ ([' '] ++ '=' :: ([' '] ++ (chars ++ [])))) [(name, item)] :=
    .entry hk hspace hspace hw blank_nil .none
  have htext : Writes "min_format_version = 2\nverify_checksum = false".toList
      [("min_format_version", .integer 2), ("verify_checksum", .boolean false)] :=
    Writes.more blank_nil (hline hmin htwo) .newline
      (Writes.last blank_nil (hline hverify .no))
  have hfaulty : Writes "max_format_version = 0\nmin_format_version = -1".toList
      [("max_format_version", .integer 0), ("min_format_version", .integer (-1))] :=
    Writes.more blank_nil (hline hmax hzero) .newline
      (Writes.last blank_nil (hline hmin hless))
  have hinverted : Writes "max_format_version = 0".toList [("max_format_version", .integer 0)] :=
    Writes.last blank_nil (hline hmax hzero)
  have hsame : Writes
      "'verify_checksum'=false # off\r\n\n\t\"min_format_version\" = 0x0_2\n".toList
      [("verify_checksum", .boolean false), ("min_format_version", .integer 2)] := by
    have hliteral : KeyText _ "verify_checksum" := .literal (List.all_eq_true.mp rfl)
    have hbasic : KeyText _ "min_format_version" := .basic (List.all_eq_true.mp rfl)
    have hnote : ∀ c ∈ " off".toList, Toml.isPlain c := List.all_eq_true.mp rfl
    have htab : Blank ['\t'] := List.all_eq_true.mp rfl
    exact Writes.more blank_nil
      (.entry hliteral blank_nil blank_nil .no hspace (.comment hnote)) .carriageReturn
      (Writes.more blank_nil (.empty .none) .newline
        (Writes.more htab (.entry hbasic hspace hspace hhex blank_nil .none) .newline
          (Writes.last blank_nil (.empty .none))))
  obtain ⟨-, hok, -, -, -, -, -, hwritten, -⟩ := parse_exact (Toml.parse?_writes htext (by decide))
  obtain ⟨-, -, -, -, hfirst, -⟩ := parse_exact (Toml.parse?_writes hfaulty (by decide))
  obtain ⟨-, -, -, -, -, hinvalid, -⟩ := parse_exact (Toml.parse?_writes hinverted (by decide))
  have hone : Describes
      [("min_format_version", .integer 2), ("verify_checksum", .boolean false)] {}
      { versions := ⟨2, 5⟩, verify := false } :=
    ⟨by decide, .inl (.head _), .inr ⟨by decide, rfl⟩, .inl (.tail _ (.head _)),
      .inr ⟨by decide, rfl⟩⟩
  have hempty : Describes [("max_format_version", .integer 0)] {} { versions := ⟨1, 0⟩ } :=
    ⟨by decide, .inr ⟨by decide, rfl⟩, .inl (.head _), .inr ⟨by decide, rfl⟩,
      .inr ⟨by decide, rfl⟩⟩
  have hparsed := (hok _).mpr ⟨hone, by decide, by decide, by decide⟩
  refine ⟨hparsed, (hwritten _ _ hsame (.swap _ _ _)).ok hparsed, (hfirst _).mpr ?_,
    hinvalid.mpr ⟨_, hempty, fun h => absurd h.2.1 (by decide)⟩⟩
  refine firstFault_cons.mpr (.inr ⟨fun fault h => ?_, firstFault_cons.mpr (.inl ?_)⟩)
  · exact not_suits_iff.mpr ⟨fault, h⟩ (.version 0 (by decide))
  · exact .outOfRange (by decide) (.inl (by decide))

end Precompiled.LoadOptions
