import SpeakerHub.Catalog
import SpeakerHub.Text.Numeral

/-! # Items, presets, recents and sources

What an account keeps beside its devices.

* **`SourceKey`** — the kind of a source and the account it is used with.
* **`Source`** — a source that the account has configured; it **`serves`** the items that carry its
  key.
* **`ContentItem`**, **`Preset`**, **`Recent`** — something playable; one behind a button; one that
  was played. -/

namespace SpeakerHub

/-- What tells sources apart when an item is played. -/
structure SourceKey where
  /-- The provider. -/
  kind : String := ""
  /-- The account at the provider. -/
  account : String := ""
  deriving DecidableEq

/-- A source that an account has configured. -/
structure Source where
  /-- The name shown for it. -/
  displayName : String := ""
  /-- Empty until one is assigned. -/
  id : String := ""
  /-- What the provider is shown. -/
  secret : String := ""
  /-- The kind of secret. -/
  secretType : String := ""
  /-- The provider and the account there. -/
  key : SourceKey := {}
  deriving DecidableEq

/-- Something that can be played. -/
structure ContentItem where
  /-- A button number for a preset, a running number for a recent. -/
  id : String := ""
  /-- The title. -/
  name : String := ""
  /-- The source that plays it, if it is known. -/
  source : SourceKey := {}
  /-- The kind of item. -/
  kind : String := ""
  /-- Where the source finds it. -/
  location : String := ""
  /-- Whether it may be put behind a button. -/
  isPresetable : Bool := true
  deriving DecidableEq

/-- An item behind a button, whose number is the id of the item. -/
structure Preset where
  /-- The item. -/
  item : ContentItem := {}
  /-- When the button was first used. -/
  createdOn : String := ""
  /-- When the button was last used. -/
  updatedOn : String := ""
  /-- The address of a picture. -/
  containerArt : String := ""
  deriving DecidableEq

/-- An item that was played. -/
structure Recent where
  /-- The item. -/
  item : ContentItem := {}
  /-- The device that played it. -/
  deviceId : String := ""
  /-- The second since 1970 in which it was played, as stored. -/
  utcTime : String := ""
  /-- The address of a picture. -/
  containerArt : String := ""
  deriving DecidableEq

/-- The second in which a recent was played, if what is stored is a number. -/
def Recent.playedAt (r : Recent) : Option Int :=
  Numeral.signed? r.utcTime

/-- The number of the source's provider. -/
def Source.providerNumber (s : Source) : Nat :=
  Catalog.number s.key.kind

/-- Whether a source plays an item. -/
def Source.serves (s : Source) (item : ContentItem) : Bool :=
  s.key == item.source

end SpeakerHub
