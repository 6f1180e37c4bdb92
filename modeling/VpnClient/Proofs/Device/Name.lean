import VpnClient.Device
import VpnClient.Proofs.Text.Uppercase

/-!
# Names of devices

Whatever white space there is in the name of a device, it is shown word by word, with a single space
between two words.  A name that is shown is shown as it is.

## Main Definitions

* `Device.ShowsWords` — the words that a device is shown with

## Main Statements

* `Device.hasWords_displayChars` — the words that are shown
* `Device.displayName_normalises` — the name that is shown is a normal form of the name
-/

namespace VpnClient

namespace Device

open Text (isBlank words IsWord HasWords IsSpaced)

/-- A device is shown with the words of its name, which are these and no others, hold all its
characters that are not white space, and are each given a capital letter: the uppercase mapping of
the first character stands in its place, and the rest of the word is left as it is. -/
structure ShowsWords (device : Device) (parts : List (List Char)) : Prop where
  hasWords_iff : ∀ others, HasWords device.name.toList others ↔ others = parts
  flatten_eq : parts.flatten = device.name.toList.filter fun c => !isBlank c
  displayName_eq : device.displayName.toList = [' '].intercalate
    (parts.map fun part => (part.take 1).flatMap Text.uppercase ++ part.drop 1)

/-- The words of a name are words with their capital letters, too. -/
theorem isWord_capitalize_of_mem (name : List Char) :
    ∀ part ∈ (words name).map Text.capitalize, IsWord part := by
  intro part hpart
  obtain ⟨word, hword, rfl⟩ := List.mem_map.mp hpart
  exact ((Text.hasWords_words name).isWord_of_mem word hword).capitalize

/-- What is shown has the words of the name, with their capital letters. -/
theorem hasWords_displayChars (name : List Char) :
    HasWords (displayChars name) ((words name).map Text.capitalize) :=
  Text.hasWords_intercalate (isWord_capitalize_of_mem name)

theorem toList_displayName (device : Device) :
    device.displayName.toList = displayChars device.name.toList :=
  String.toList_ofList

theorem showsWords (device : Device) : device.ShowsWords (words device.name.toList) where
  hasWords_iff _ := Text.hasWords_iff
  flatten_eq := (Text.hasWords_words device.name.toList).flatten_eq
  displayName_eq := by
    rw [device.toList_displayName, displayChars]
    exact congrArg _ (List.map_congr_left fun part _ => Text.capitalize_eq part)

/-- Nothing is shown if and only if there is nothing but white space in the name. -/
theorem displayChars_eq_nil_iff (name : List Char) :
    displayChars name = [] ↔ ∀ c ∈ name, isBlank c = true := by
  rw [← (Text.hasWords_words name).eq_nil_iff]
  constructor
  · intro hnil
    have hshown := (hasWords_displayChars name).eq_nil_iff.mpr (by rw [hnil]; exact nofun)
    exact List.map_eq_nil_iff.mp hshown
  · intro hnil
    rw [displayChars, hnil]
    rfl

/-- The name that is shown is shown as it is. -/
theorem displayChars_displayChars (name : List Char) :
    displayChars (displayChars name) = displayChars name := by
  have hsame : Text.capitalize ∘ Text.capitalize = Text.capitalize := by
    funext s
    exact Text.capitalize_capitalize s
  calc displayChars (displayChars name)
      = [' '].intercalate (((words name).map Text.capitalize).map Text.capitalize) := by
        rw [displayChars, ← (hasWords_displayChars name).eq_words]
    _ = displayChars name := by rw [List.map_map, hsame, displayChars]

/-- The name that is shown of a device: its words with capital letters, in their order and all of
them, single spaces between them and no other white space; nothing at all if and only if the name
holds only white space; and the same again for a device that has this name. -/
theorem displayName_normalises (device : Device) :
    (∃ parts, device.ShowsWords parts) ∧ IsSpaced device.displayName.toList ∧
      (device.displayName = "" ↔ ∀ c ∈ device.name.toList, isBlank c = true) ∧
      displayName { device with name := device.displayName } = device.displayName := by
  refine ⟨⟨_, device.showsWords⟩, ?_, ?_, ?_⟩
  · rw [toList_displayName]
    exact Text.isSpaced_intercalate (isWord_capitalize_of_mem device.name.toList)
  · rw [← displayChars_eq_nil_iff, ← toList_displayName, String.toList_eq_nil_iff]
  · have hagain := displayChars_displayChars device.name.toList
    rw [← toList_displayName] at hagain
    exact congrArg String.ofList (hagain.trans device.toList_displayName)

/-- White space of several kinds, a letter with a capital form of two characters, and one that has
none. -/
example : displayName ⟨"1", "\u3000happy \tßeal\u00a0\n7 "⟩ = "Happy SSeal 7" := by
  decide +kernel

end Device

end VpnClient
