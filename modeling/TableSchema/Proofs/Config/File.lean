import Mathlib.Tactic.Common
import TableSchema.CommandLine.Program
import TableSchema.Proofs.Toml.Entries

/-!
# Settings survive their file

The text of a settings file is a document of four plain entries: their names are bare words, and
their texts say the values of the settings.  Such a document is read as its entries, whatever the
log level consists of, and each setting is found again under its name.  A file is touched only once
there is a text to put into it.

## Main definitions

* `Config.plainEntries` — the entries of a settings file as they are written.

## Main results

* `Config.ofToml_toToml` — settings are read back from their text.
* `Config.toFileBy_eq` — a file either holds the print of the settings or stands as it stood.
* `Config.ofFile_toFile` — **settings are read back from the file that they were put into.**
-/

namespace TableSchema

open Toml

namespace Config

/-! ### The text of settings -/

/-- The entries of a settings file as they are written. -/
def plainEntries (c : Config) : List PlainEntry :=
  [⟨"abbreviation_length", Nat.toDigits 10 c.abbreviationLength.toNat,
      .integer c.abbreviationLength.toNat⟩,
    ⟨"strict_types", (toString c.strictTypes).toList, .boolean c.strictTypes⟩,
    ⟨"log_level", writeString c.logLevel.toList, .string c.logLevel⟩,
    ⟨"output_format", writeString c.outputFormat.name.toList, .string c.outputFormat.name⟩]

/-- The text of a settings file is the document of its entries. -/
theorem toList_toToml (c : Config) : c.toToml.toList = document c.plainEntries := by
  have htext (s : String) : toString s = s := rfl
  unfold toToml
  simp [htext, document, plainEntries, PlainEntry.line]

theorem readable_of_bare {name : String} {text : List Char} {v : Value}
    (hne : name.toList ≠ []) (hall : name.toList.all isBareChar = true) (h : Denotes text v) :
    PlainEntry.Readable ⟨name, text, v⟩ :=
  ⟨hne, List.all_eq_true.mp hall, h⟩

theorem readable_plainEntries (c : Config) : ∀ e ∈ c.plainEntries, e.Readable := by
  have hlength : c.abbreviationLength.toNat < Nat.pow 2 128 :=
    Nat.lt_trans c.abbreviationLength.toNat_lt (by decide)
  simp only [plainEntries, List.forall_mem_cons]
  exact ⟨readable_of_bare (by decide) (by decide) (denotes_integer hlength),
    readable_of_bare (by decide) (by decide) (denotes_boolean _),
    readable_of_bare (by decide) (by decide) (denotes_string _),
    readable_of_bare (by decide) (by decide) (denotes_string _),
    fun e he => absurd he List.not_mem_nil⟩

theorem nodup_plainEntries (c : Config) : (c.plainEntries.map PlainEntry.name).Nodup := by
  rw [plainEntries]
  simp

/-! ### Settings and their entries -/

/-- A length is a whole number of 64 bits, far below what a file can say. -/
theorem lengthOfToml?_integer (n : UInt64) : lengthOfToml? (.integer n.toNat) = some n := by
  have h : lengthOfToml? (.integer (.ofNat n.toNat)) = some n := by
    rw [lengthOfToml?, if_pos n.toNat_lt, UInt64.ofNat_toNat]
  exact h

/-- Each setting is found again under its name. -/
theorem ofEntries?_plainEntries (c : Config) :
    ofEntries? (c.plainEntries.map fun e => (e.name, e.value)) = some c := by
  have hlength := lengthOfToml?_integer c.abbreviationLength
  have hformat : OutputFormat.ofToml? (.string c.outputFormat.name) = some c.outputFormat :=
    OutputFormat.ofExactName?_name c.outputFormat
  simp [ofEntries?, settingOfToml?, plainEntries, entry?, List.lookup_cons, truthOfToml?,
    textOfToml?, hlength, hformat]

/-- **Settings are read back from their text.** -/
theorem ofToml_toToml (c : Config) : ofToml c.toToml = .ok c := by
  have hread := read_document c.readable_plainEntries c.nodup_plainEntries
  rw [ofToml, toList_toToml, hread]
  simp only [ofEntries?_plainEntries]

/-! ### Files -/

/-- However settings are printed, a file holds their print afterwards; only where they have none is
it refused, and stands as it stood. -/
theorem toFileBy_eq (print : Config → Except Misconfiguration String) (c : Config)
    (standing : Except ReadFault Item) :
    (∃ text, print c = .ok text ∧
        c.toFileBy print standing = (.ok (), .ok (.file text.toUTF8))) ∨
      ∃ cause, print c = .error cause ∧
        c.toFileBy print standing = (.error (.misconfigured cause), standing) := by
  rw [toFileBy]
  cases print c with
  | ok text => exact .inl ⟨text, rfl, rfl⟩
  | error cause => exact .inr ⟨cause, rfl, rfl⟩

/-- **Settings are read back from the file that they were put into**, which succeeds for all of
them, whether or not they could be worked with.  If they were printed in another way that could
fail, a failure would be one of the settings, and the file would stand as it stood. -/
theorem ofFile_toFile (c : Config) (standing : Except ReadFault Item) :
    (c.toFile standing).1 = .ok () ∧
      ofFile (Folder.textAt (c.toFile standing).2) = .ok c ∧
      ∀ print : Config → Except Misconfiguration String,
        (∃ text, print c = .ok text ∧
            c.toFileBy print standing = (.ok (), .ok (.file text.toUTF8))) ∨
          ∃ cause, print c = .error cause ∧
            c.toFileBy print standing = (.error (.misconfigured cause), standing) := by
  -- the print cannot fail, so the bytes of the text stand there whatever stood there before
  have hwritten : c.toFile standing = (.ok (), .ok (.file c.toToml.toUTF8)) := rfl
  refine ⟨by rw [hwritten], ?_, fun print => toFileBy_eq print c standing⟩
  rw [hwritten, Folder.textAt, Folder.textOfBytes_toUTF8, ofFile]
  simp only [ofToml_toToml]

end Config

end TableSchema
