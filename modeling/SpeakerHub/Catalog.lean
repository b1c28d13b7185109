/-! # The catalog of streaming providers

The providers a speaker's firmware knows, in the firmware's order, and the fixed values that go with
them.

* **`Catalog.providers`** — the names; a provider's number is its position, counted from one.
* **`Catalog.number`** — the number of a kind of source, zero for an unknown one.
* **`Catalog.timestamp`** — stands for any creation time that is not known. -/

namespace SpeakerHub.Catalog

/-- The timestamp of records whose creation time is unknown. -/
def timestamp : String :=
  "2012-09-19T12:43:00.000+00:00"

/-- The same time in milliseconds since 1970. -/
def milliseconds : Nat :=
  1348058580000

/-- The first number given to a source that was stored without an id. -/
def firstSourceId : Nat :=
  100001

/-- The streaming providers in the order of their numbers. -/
def providers : List String :=
  ["PANDORA", "INTERNET_RADIO", "OFF", "LOCAL", "AIRPLAY", "CURRATED_RADIO", "STORED_MUSIC",
    "SLAVE_SOURCE", "AUX", "RECOMMENDED_INTERNET_RADIO", "LOCAL_INTERNET_RADIO",
    "GLOBAL_INTERNET_RADIO", "HELLO", "DEEZER", "SPOTIFY", "IHEART", "SIRIUSXM",
    "GOOGLE_PLAY_MUSIC", "QQMUSIC", "AMAZON", "LOCAL_MUSIC", "WBMX", "SOUNDCLOUD", "TIDAL",
    "TUNEIN", "QPLAY", "JUKE", "BBC", "DARFM", "7DIGITAL", "SAAVN", "RDIO", "PHONE_MUSIC",
    "ALEXA", "RADIOPLAYER", "RADIO.COM", "RADIO_COM", "SIRIUSXM_EVEREST"]

/-- The number of a provider, or zero if the firmware does not know it. -/
def number (kind : String) : Nat :=
  match providers.findIdx? (· == kind) with
  | some i => i + 1
  | none => 0

/-- The number of a provider that is not in the catalog is zero. -/
theorem number_of_not_mem {kind : String} (h : kind ∉ providers) : number kind = 0 := by
  have : providers.findIdx? (· == kind) = none := by
    rw [List.findIdx?_eq_none_iff]
    intro p hp
    exact beq_eq_false_iff_ne.2 fun he => h (he ▸ hp)
  simp [number, this]

end SpeakerHub.Catalog
