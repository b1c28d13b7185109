import SpeakerHub.Proofs.Account.Failures
import SpeakerHub.Proofs.Discovery.Filing
import SpeakerHub.Proofs.Discovery.Scanning

/-! # Reports of devices

A device is reported by registrations and by searches. Each report is merged with the record that
there is, so that a field which is not said keeps what it said before. The exception is the name: a
registration without a name takes away the one that is known.

* **`Account.Merges`** — a record after a registration; **`Account.exists_run_addDevice`** — one
  that goes well.
* **`Report`**, **`Report.Updates`** — a report, and the record after it; **`Report.device_apply`**
  — a report updates a record or leaves it.
* **`Report.Forgets`** — a report that takes away what a field says; **`Report.Updates.lasts`** —
  the other fields still say something.
* **`reported`** — the disk after some reports; **`device_reported`** — what is left of a record.
* **`registrations_merge`** — all of it; **`name_is_taken_away`** — the exception. -/

namespace SpeakerHub

open Store

variable {s : Store} {account body : String} {a id : Identifier} {d d' : Disk}
variable {known device : Device}

/-! ## One record -/

/-- A record that is there is what is known. -/
theorem Store.deviceOrNew_of_device (h : s.device a id d = .ok known) :
    s.deviceOrNew a id d = .ok known := by
  rw [Store.deviceOrNew, h]

/-- **Where a record is written**, all records can be read as before, or as they were written. -/
theorem Store.Writes.read_device {a' id' : Identifier} {r : Except Error Unit}
    (h : Writes ((Key.device a' id').parent s) (Key.device a' id').fileName device.toText d r d')
    (hread : s.device a id d = .ok known) :
    s.device a id d' = .ok known
      ∨ (a = a' ∧ id = id') ∧ s.device a id d' = .ok device.stored := by
  by_cases hkept : Key.device a id ≠ Key.device a' id' ∨ ∃ e, r = .error e
  · have hlook := h.look_iff hkept
    rw [Key.path_device] at hlook
    exact .inl (Discovery.Leaves.device_of_look hlook hread)
  · rw [not_or, not_not, not_exists] at hkept
    obtain ⟨hkey, hok⟩ := hkept
    obtain ⟨rfl, rfl⟩ := Key.device.inj hkey
    cases r with
    | error e => exact absurd rfl (hok e)
    | ok =>
      have hlook := h.look_of_ok
      rw [← Key.path, Key.path_device] at hlook
      exact .inr ⟨⟨rfl, rfl⟩, read_file hlook device.ofText_toText⟩

namespace Account

/-! ## One registration -/

/-- **A registration of a device** that is understood. -/
structure IsRegistration (account body : String) (a id : Identifier) (request : DeviceRequest) :
    Prop where
  /-- What is asked for. -/
  request_eq : DeviceRequest.ofText body = .ok request
  /-- The account. -/
  account_eq : a.text = account
  /-- The device. -/
  id_eq : id.text = request.deviceId

/-- **A field after a registration**: what the request says, or what was known if that is empty. -/
def IsGiven (value known result : String) : Prop :=
  (value ≠ "" → result = value) ∧ (value = "" → result = known)

/-- Values are given so. -/
theorem isGiven_given (value known : String) : IsGiven value known (given value known) := by
  constructor
  · intro hvalue
    rw [given, if_neg (mt String.isEmpty_iff.1 hvalue)]
  · rintro rfl
    rfl

/-- A field that is not empty stays so. -/
theorem given_ne_empty {value known : String} (hknown : known ≠ "") : given value known ≠ "" := by
  obtain ⟨hvalue, hnone⟩ := isGiven_given value known
  by_cases h : value = ""
  · rwa [hnone h]
  · rwa [hvalue h]

/-- **A record after a registration.** Only the name is taken as it is. -/
structure Merges (request : DeviceRequest) (known device : Device) : Prop where
  /-- The id it gives itself. -/
  id : device.id = known.id
  /-- The serial number of the product. -/
  productSerial : device.productSerial = known.productSerial
  /-- Its name. -/
  name : device.name = request.name
  /-- Where it is reached. -/
  address : IsGiven request.address known.address device.address
  /-- The version of its software. -/
  firmware : IsGiven request.firmware known.firmware device.firmware
  /-- The serial number of its module. -/
  serial : IsGiven request.serial known.serial device.serial
  /-- The product code. -/
  productCode : device.productCode = Device.storedProductCode known.productCode

/-- What is stored is merged. -/
theorem merges_registered (request : DeviceRequest) (known : Device) :
    Merges request known (registered request known).stored := by
  constructor <;> dsimp only [registered, Device.stored]
  all_goals exact isGiven_given _ _

/-- **A registration goes well** if the record can be read and written, and the lists of the account
can be read. Afterwards this is still so. -/
theorem exists_run_addDevice {request : DeviceRequest}
    (hregistration : IsRegistration account body a id request)
    (hknown : s.deviceOrNew a id d = .ok known) (hcan : s.CanWrite (.device a id) d)
    (hreadable : ∀ resource, ¬s.Unreadable a resource d) :
    ∃ w d', (addDevice s account body).run d = (.ok w, d')
      ∧ s.device a id d' = .ok (registered request known).stored
      ∧ s.CanWrite (.device a id) d' ∧ ∀ resource, ¬s.Unreadable a resource d' := by
  obtain ⟨hrequest, rfl, hid⟩ := hregistration
  let device := registered request known
  have hsaved : ((s.saveDevice a id device).run d).1 = .ok () :=
    Discovery.saveDevice_eq_ok_iff.2 hcan
  have hwrites : Writes (s.devicePath a id) "DeviceInfo.xml" device.toText d (.ok ())
      ((s.saveDevice a id device).run d).2 := by
    rw [← hsaved]
    exact Store.writes _ _ _ d
  have hlists := hwrites.look_list (isShort_accountPath_of_record hwrites.look_of_ok)
  have hreadable' (resource : Resource) :
      ¬s.Unreadable a resource ((s.saveDevice a id device).run d).2 :=
    mt (unreadable_congr (hlists resource)).1 (hreadable resource)
  have hanswer : ¬∃ e, deviceAnswer s a device ((s.saveDevice a id device).run d).2 = .error e :=
    mt deviceAnswer_eq_error_iff.1 (not_exists.2 hreadable')
  obtain ⟨w, hw⟩ := not_exists_error_iff.1 hanswer
  -- The lists are not written, so the answer can be made of them.
  refine ⟨w, _, ?_, read_file hwrites.look_of_ok device.ofText_toText,
    Discovery.canWrite_saveDevice hcan device, hreadable'⟩
  rw [run_addDevice hrequest (Identifier.ofText_eq_ok_iff.2 hid) (ofText_text a) hknown,
    Action.run_bind_ok (Prod.ext hsaved rfl)]
  exact Prod.ext hw rfl

end Account

/-! ## One report -/

/-- **A report of a device.** -/
inductive Report where
  /-- It is registered. -/
  | registration (account body : String)
  /-- It is found, and filed under an account. -/
  | find (account : String) (found : Discovery.Found)

/-- A field of a record that reports may say. -/
inductive Device.Field where
  /-- Its name. -/
  | name
  /-- Where it is reached. -/
  | address
  /-- The version of its software. -/
  | firmware
  /-- The serial number of its module. -/
  | serial
  /-- The serial number of the product. -/
  | productSerial
  /-- The product code. -/
  | productCode

/-- What a field says. -/
def Device.Field.of : Device.Field → Device → String
  | name, device => device.name
  | address, device => device.address
  | firmware, device => device.firmware
  | serial, device => device.serial
  | productSerial, device => device.productSerial
  | productCode, device => device.productCode

namespace Device

/-- A product code that says nothing after it was stored is empty or a space. -/
theorem storedProductCode_eq_empty_iff {code : String} :
    storedProductCode code = "" ↔ code = "" ∨ code = " " := by
  constructor
  · intro hempty
    have hcode := eq_storedProductCode_or code
    rwa [hempty] at hcode
  · rintro (rfl | rfl) <;> rfl

/-- A device that was stored is stored as it is. -/
theorem stored_stored (device : Device) : device.stored.stored = device.stored := by
  rw [stored, stored, storedProductCode_stored]

/-- What a field says when it is stored, it says before. -/
theorem Field.of_ne_empty_of_stored {field : Field} (h : field.of device.stored ≠ "") :
    field.of device ≠ "" := by
  cases field <;> dsimp only [Field.of, stored] at h ⊢
  case productCode => exact fun hempty => h (storedProductCode_eq_empty_iff.2 (.inl hempty))
  all_goals exact h

end Device

/-- A product code that says something still does after a model is found that is no space. -/
theorem Discovery.storedCode_ne_empty {code model : String}
    (hcode : Device.storedProductCode code ≠ "") :
    storedCode code model ≠ "" ∨ model = " " := by
  by_cases hkept : model.toList <+: code.toList
  · rw [storedCode_of_isPrefix hkept]
    exact .inl hcode
  · rw [storedCode_of_not hkept, Ne, Device.storedProductCode_eq_empty_iff]
    by_cases hmodel : model = " "
    · exact .inr hmodel
    · refine .inl (not_or.2 ⟨fun hempty => hkept ?_, hmodel⟩)
      rw [hempty]
      exact List.nil_prefix

namespace Report

variable {report : Report}

/-- The disk after a report. -/
def apply (s : Store) (d : Disk) : Report → Disk
  | registration account body => ((Account.addDevice s account body).run d).2
  | find account found => ((Discovery.record s account found).run d).2

/-- **The record of a device after a report of it.** -/
inductive Updates (a id : Identifier) (known : Device) : Report → Device → Prop where
  /-- What is registered is merged. -/
  | registration {account body : String} {request : DeviceRequest}
      (h : Account.IsRegistration account body a id request) :
      Updates a id known (.registration account body) (Account.registered request known).stored
  /-- So is what is found. -/
  | find {account : String} {found : Discovery.Found}
      (hfor : Discovery.IsFor account a id found) :
      Updates a id known (.find account found) (Discovery.merged found known).stored

/-- **A report that takes away what a field says.** -/
inductive Forgets (a id : Identifier) : Report → Device.Field → Prop where
  /-- A registration that says no name. -/
  | name {account body : String} {request : DeviceRequest}
      (h : Account.IsRegistration account body a id request) (hname : request.name = "") :
      Forgets a id (.registration account body) .name
  /-- A find at no host. -/
  | address {account : String} {found : Discovery.Found}
      (hfor : Discovery.IsFor account a id found) (hhost : found.host = "") :
      Forgets a id (.find account found) .address
  /-- A find of a model that is a space. -/
  | productCode {account : String} {found : Discovery.Found}
      (hfor : Discovery.IsFor account a id found) (hmodel : found.model = " ") :
      Forgets a id (.find account found) .productCode

/-- **A record that can be read** is updated by a report or stays as it is. -/
theorem device_apply (hread : s.device a id d = .ok known) (report : Report) :
    ∃ device, s.device a id (report.apply s d) = .ok device
      ∧ (device = known ∨ report.Updates a id known device) := by
  have hknown := deviceOrNew_of_device hread
  cases report with
  | registration account body =>
    rw [apply]
    have hcases := Account.addsDevice s account body d
    generalize ((Account.addDevice s account body).run d).1 = r,
      ((Account.addDevice s account body).run d).2 = d' at hcases ⊢
    cases hcases with
    | failed h =>
      have hlook := h.kept.documents (.device a id)
      rw [Key.path_device] at hlook
      exact ⟨known, Discovery.Leaves.device_of_look hlook hread, .inl rfl⟩
    | saved hrequest hid haccount hknown' hsaved =>
      -- Only where this record was written is there something else to read than before.
      rcases hsaved.of_device.read_device hread with hsame | ⟨⟨rfl, rfl⟩, hstored⟩
      · exact ⟨known, hsame, .inl rfl⟩
      · obtain rfl := Except.ok.inj (hknown.symm.trans hknown')
        exact ⟨_, hstored, .inr (.registration ⟨hrequest, Identifier.ofText_eq_ok_iff.1 haccount,
          Identifier.ofText_eq_ok_iff.1 hid⟩)⟩
  | find account found =>
    rw [apply]
    have hcases := Discovery.records s account found d
    generalize ((Discovery.record s account found).run d).2 = d' at hcases ⊢
    cases hcases with
    | unnamed _ => exact ⟨known, hread, .inl rfl⟩
    | unreadable _ _ => exact ⟨known, hread, .inl rfl⟩
    | written hfor hknown' h =>
      rcases h.read_device hread with hsame | ⟨⟨rfl, rfl⟩, hstored⟩
      · exact ⟨known, hsame, .inl rfl⟩
      · obtain rfl := Except.ok.inj (hknown.symm.trans hknown')
        exact ⟨_, hstored, .inr (.find hfor)⟩

namespace Updates

variable (h : report.Updates a id known device)
include h

/-- A record that is updated was stored. -/
theorem stored_eq : device.stored = device := by
  cases h with
  | registration _ => exact Device.stored_stored _
  | find _ => exact Device.stored_stored _

/-- A record keeps the id it gives itself. -/
theorem id_eq : device.id = known.id := by
  cases h with
  | registration _ => rfl
  | find _ => rfl

/-- It keeps the serial number of its product. -/
theorem productSerial_eq : device.productSerial = known.productSerial := by
  cases h with
  | registration _ => rfl
  | find _ => rfl

/-- **A field that says something** still does after a report that does not forget it. -/
theorem lasts {field : Device.Field} (hknown : field.of known.stored ≠ "") :
    field.of device ≠ "" ∨ report.Forgets a id field := by
  cases h with
  | @registration account body request h =>
    cases field <;> dsimp only [Device.Field.of, Device.stored, Account.registered] at hknown ⊢
    case name =>
      by_cases hname : request.name = ""
      · exact .inr (.name h hname)
      · exact .inl hname
    case address | firmware | serial => exact .inl (Account.given_ne_empty hknown)
    case productSerial | productCode => exact .inl hknown
  | @find account found hfor =>
    cases field <;> dsimp only [Device.Field.of, Device.stored, Discovery.merged] at hknown ⊢
    case name =>
      -- A name that is not said is kept, as in a registration all fields but this one are.
      have hname : Account.given found.name known.name ≠ "" := Account.given_ne_empty hknown
      exact .inl hname
    case address =>
      by_cases hhost : found.host = ""
      · exact .inr (.address hfor hhost)
      · exact .inl hhost
    case firmware | serial | productSerial => exact .inl hknown
    case productCode =>
      rw [← Discovery.storedCode]
      exact (Discovery.storedCode_ne_empty hknown).imp_right fun hmodel => .productCode hfor hmodel

end Updates

end Report

/-! ## All reports -/

/-- The disk after some reports, each at its time. -/
def reported (s : Store) (reports : List (Int × Report)) (d : Disk) : Disk :=
  reports.foldl (fun d (clock, report) => report.apply s (d.atTime clock)) d

/-- **What is left of a record** after some reports: it can be read, it keeps its id and the serial
number of its product, and what is not forgotten still says something. -/
theorem device_reported (reports : List (Int × Report)) (hread : s.device a id d = .ok known) :
    ∃ device, s.device a id (reported s reports d) = .ok device
      ∧ device.id = known.id ∧ device.productSerial = known.productSerial
      ∧ ∀ field : Device.Field, field.of known.stored ≠ "" →
        field.of device ≠ "" ∨ ∃ clock report, (clock, report) ∈ reports
          ∧ report.Forgets a id field := by
  -- For every record, since the later reports meet what the first one left.
  induction reports generalizing d known with
  | nil =>
    exact ⟨known, hread, rfl, rfl, fun field h => .inl (Device.Field.of_ne_empty_of_stored h)⟩
  | cons first reports ih =>
    obtain ⟨clock, report⟩ := first
    have hclock : s.device a id (d.atTime clock) = .ok known := hread
    obtain ⟨next, hnext, hcases⟩ := report.device_apply hclock
    obtain ⟨device, hdevice, hid, hserial, hlasts⟩ := ih hnext
    have hlater {field : Device.Field} (h : field.of next.stored ≠ "") :
        field.of device ≠ "" ∨ ∃ time other, (time, other) ∈ (clock, report) :: reports
          ∧ other.Forgets a id field :=
      (hlasts field h).imp_right fun ⟨time, other, hother, hforgets⟩ =>
        ⟨time, other, List.mem_cons_of_mem _ hother, hforgets⟩
    rcases hcases with rfl | hupdates
    · exact ⟨device, hdevice, hid, hserial, fun field => hlater⟩
    · refine ⟨device, hdevice, hid.trans hupdates.id_eq, hserial.trans hupdates.productSerial_eq,
        fun field hfield => ?_⟩
      rcases hupdates.lasts hfield with hstill | hforgets
      · rw [← hupdates.stored_eq] at hstill
        exact hlater hstill
      · exact .inr ⟨clock, report, List.mem_cons_self, hforgets⟩

/-- **Registrations merge.** After a registration that goes well, the record of the device can be
read. Its address, the version of its software and its serial number are what the request says, or
what was known if it says nothing; its id and the serial number of the product are as before. But
its name is what the request says in any case.

So through any reports at any times, whether they go well or not, a record that could be read still
can be, with its id and the serial number of the product, and each field that says something still
does, unless a report forgets it: a registration without a name, or a find at no host or of a model
that is a space. -/
theorem registrations_merge (s : Store) :
    (∀ (account body : String) (d : Disk) (w : Account.Written) (d' : Disk),
      (Account.addDevice s account body).run d = (.ok w, d') →
      ∃ request a id known device, Account.IsRegistration account body a id request
        ∧ s.deviceOrNew a id d = .ok known ∧ s.device a id d' = .ok device
        ∧ Account.Merges request known device)
    ∧ ∀ (reports : List (Int × Report)) (a id : Identifier) (d : Disk) (known : Device),
      s.device a id d = .ok known →
      ∃ device, s.device a id (reported s reports d) = .ok device
        ∧ device.id = known.id ∧ device.productSerial = known.productSerial
        ∧ ∀ field : Device.Field, field.of known.stored ≠ "" →
          field.of device ≠ "" ∨ ∃ clock report, (clock, report) ∈ reports
            ∧ report.Forgets a id field := by
  constructor
  · intro account body d w d' hrun
    obtain ⟨request, a, id, known, h⟩ := Account.exists_registers hrun
    exact ⟨request, a, id, known, (Account.registered request known).stored,
      ⟨h.request_eq, h.account_eq, h.id_eq⟩, h.known_eq,
      read_file h.saved.look_of_ok (Device.ofText_toText _),
      Account.merges_registered request known⟩
  · intro reports a id d known hread
    exact device_reported reports hread

/-- A device that is registered on an empty disk, with its name and the version of its software. -/
theorem Account.first_registration :
    let s : Store := { directory := Path.ofTexts ["data"] }
    let a : Identifier := { text := "A", valid := by decide }
    let id : Identifier := { text := "D", valid := by decide }
    let body :=
      "<device deviceid=\"D\"><name>N</name><firmwareVersion>27</firmwareVersion></device>"
    ∃ w d, (addDevice s "A" body).run { clock := 1000 } = (.ok w, d)
      ∧ s.device a id d = .ok { id := "D", name := "N", firmware := "27" }
      ∧ s.CanWrite (.device a id) d ∧ ∀ resource, ¬s.Unreadable a resource d := by
  intro s a id body
  let request : DeviceRequest :=
    { deviceId := "D", name := "N", address := "", firmware := "27", serial := "" }
  have hrequest : DeviceRequest.ofText body = .ok request := by
    simp only [body]
    rfl
  have hregistration : IsRegistration "A" body a id request := ⟨hrequest, rfl, rfl⟩
  have hknown : s.deviceOrNew a id { clock := 1000 } = .ok { id := "D" } := by decide
  have hsaved : ((s.saveDevice a id {}).run { clock := 1000 }).1 = .ok () := by decide
  have hcan := Discovery.saveDevice_eq_ok_iff.1 hsaved
  have hreadable (resource : Resource) : ¬s.Unreadable a resource { clock := 1000 } := by
    rintro ⟨-, hthere⟩
    apply hthere
    cases resource <;> decide
  have hstored : (registered request { id := "D" }).stored
      = { id := "D", name := "N", firmware := "27" } := by decide
  obtain ⟨w, d, hrun, hdevice, hcan', hreadable'⟩ :=
    exists_run_addDevice hregistration hknown hcan hreadable
  rw [hstored] at hdevice
  exact ⟨w, d, hrun, hdevice, hcan', hreadable'⟩

/-- A registration adds the address, and the version that it does not say stays, also when the
device is found afterwards. -/
theorem address_is_added :
    let s : Store := { directory := Path.ofTexts ["data"] }
    let a : Identifier := { text := "A", valid := by decide }
    let id : Identifier := { text := "D", valid := by decide }
    let first :=
      "<device deviceid=\"D\"><name>N</name><firmwareVersion>27</firmwareVersion></device>"
    let second := "<device deviceid=\"D\"><name>N</name><ipaddress>10.0.0.7</ipaddress></device>"
    let find : Discovery.Found := { id := "D", name := "", host := "10.0.0.8", model := "" }
    ∃ w d w' d' device later, (Account.addDevice s "A" first).run { clock := 1000 } = (.ok w, d)
      ∧ (Account.addDevice s "A" second).run d = (.ok w', d')
      ∧ s.device a id d' = .ok device ∧ device.address = "10.0.0.7" ∧ device.firmware = "27"
      ∧ s.device a id (reported s [(2000, .find "A" find)] d') = .ok later
      ∧ later.name ≠ "" := by
  intro s a id first second find
  obtain ⟨w, d, hrun, hread, hcan, hreadable⟩ := Account.first_registration
  let said : DeviceRequest :=
    { deviceId := "D", name := "N", address := "10.0.0.7", firmware := "", serial := "" }
  have hsaid : DeviceRequest.ofText second = .ok said := by
    simp only [second]
    rfl
  clear_value second
  have hregistration : Account.IsRegistration "A" second a id said := ⟨hsaid, rfl, rfl⟩
  have hknown := deviceOrNew_of_device hread
  obtain ⟨w', d', hrun', -⟩ :=
    Account.exists_run_addDevice hregistration hknown hcan hreadable
  obtain ⟨hregistrations, hreports⟩ := registrations_merge s
  obtain ⟨request, a', id', known, device, hrequest, hknown', hdevice, hmerges⟩ :=
    hregistrations "A" second d w' d' hrun'
  obtain rfl := Except.ok.inj (hrequest.request_eq.symm.trans hsaid)
  obtain rfl : a' = a := Key.text_inj.1 hrequest.account_eq
  obtain rfl : id' = id := Key.text_inj.1 hrequest.id_eq
  obtain rfl := Except.ok.inj (hknown'.symm.trans hknown)
  have hname : Device.Field.name.of device.stored ≠ "" := by
    have hgiven : device.stored.name = "N" := hmerges.name
    rw [Device.Field.of, hgiven]
    decide
  obtain ⟨later, hlater, -, -, hlasts⟩ := hreports [(2000, .find "A" find)] a id d' device hdevice
  refine ⟨w, d, w', d', device, later, hrun, hrun', hdevice, hmerges.address.1 (by decide),
    hmerges.firmware.2 rfl, hlater, ?_⟩
  rcases hlasts .name hname with hstill | ⟨clock, report, hreport, hforgets⟩
  · exact hstill
  · -- No find takes a name away.
    cases List.mem_singleton.1 hreport
    cases hforgets

/-- **A name is taken away** by a registration that does not say one. -/
theorem name_is_taken_away :
    let s : Store := { directory := Path.ofTexts ["data"] }
    let a : Identifier := { text := "A", valid := by decide }
    let id : Identifier := { text := "D", valid := by decide }
    let first :=
      "<device deviceid=\"D\"><name>N</name><firmwareVersion>27</firmwareVersion></device>"
    ∃ w d w' d' known device, (Account.addDevice s "A" first).run { clock := 1000 } = (.ok w, d)
      ∧ s.device a id d = .ok known ∧ known.name = "N"
      ∧ (Account.addDevice s "A" "<device deviceid=\"D\"/>").run d = (.ok w', d')
      ∧ s.device a id d' = .ok device ∧ device.name = "" := by
  intro s a id first
  obtain ⟨w, d, hrun, hread, hcan, hreadable⟩ := Account.first_registration
  have hregistration : Account.IsRegistration "A" "<device deviceid=\"D\"/>" a id
      { deviceId := "D", name := "", address := "", firmware := "", serial := "" } :=
    ⟨rfl, rfl, rfl⟩
  obtain ⟨w', d', hrun', hread', -⟩ :=
    Account.exists_run_addDevice hregistration (deviceOrNew_of_device hread) hcan hreadable
  exact ⟨w, d, w', d', _, _, hrun, hread, rfl, hrun', hread', rfl⟩

end SpeakerHub
