import SpeakerHub.Markup.Fields
import SpeakerHub.Markup.Printer

/-! # Devices

A device as the store knows it, and the document that describes one. The same document comes from a
speaker that is asked who it is.

* **`Device`** — the record.
* **`Device.splitProductCode`**, **`Device.joinProductCode`** — the product code holds the type of a
  device and the type of its module, with a space between them.
* **`Identity`** — the half of a document that says what a device is made of.
* **`Network`** — the half that says where it is reached.
* **`Device.toElement`**, **`Device.ofText?`** — a record as a document and back. -/

namespace SpeakerHub

open Markup

/-- What the store knows about a device. -/
structure Device where
  /-- The id it gives itself. -/
  id : String := ""
  /-- The name its owner gave it. -/
  name : String := ""
  /-- The types of the device and of its module. -/
  productCode : String := ""
  /-- The version of its software. -/
  firmware : String := ""
  /-- The serial number of its module. -/
  serial : String := ""
  /-- The serial number of the product around the module. -/
  productSerial : String := ""
  /-- Where it is reached. -/
  address : String := ""
  deriving DecidableEq

namespace Device

/-- The product code of a device type and a module type, which may be empty. -/
def joinProductCode (deviceType moduleType : String) : String :=
  if moduleType.isEmpty then deviceType else deviceType ++ " " ++ moduleType

/-- The device type and the module type in a product code: what stands in front of the first space
and behind it. -/
def splitProductCode (code : String) : String × String :=
  let behind := code.toList.dropWhile (· != ' ')
  (String.ofList (code.toList.takeWhile (· != ' ')), String.ofList (behind.drop 1))

end Device

/-! ## The two halves of a document -/

/-- A part that a device is made of. -/
structure Component where
  /-- What kind of part it is. -/
  category : String
  /-- The version of its software. -/
  softwareVersion : String
  /-- Its serial number. -/
  serialNumber : String

/-- The category of the module that runs the software and talks to the network. -/
def Component.controlModule : String :=
  "SCM"

/-- The category of the product as a whole. -/
def Component.packagedProduct : String :=
  "PackagedProduct"

/-- What a device is and what it is made of. -/
structure Identity where
  /-- The id it gives itself. -/
  deviceId : String
  /-- Its name. -/
  name : String
  /-- The type of the device. -/
  deviceType : String
  /-- The type of its module. -/
  moduleType : String
  /-- Its parts in the order in which they are listed. -/
  components : List Component

/-- A connection of a device. -/
structure Connection where
  /-- The part that is connected. -/
  kind : String
  /-- The address it is reached at. -/
  address : String

/-- Where a device is reached. -/
structure Network where
  /-- Its connections in the order in which they are listed. -/
  connections : List Connection

/-- Reads a part. -/
def Component.ofFields? (f : Fields) : Option Component := do
  return {
    category := ← f.text? "componentCategory"
    softwareVersion := ← f.text? "softwareVersion"
    serialNumber := ← f.text? "serialNumber" }

/-- Reads the half of a document that says what a device is. -/
def Identity.ofText? (text : String) : Option Identity := do
  let f ← Fields.ofText? text
  return {
    deviceId := ← f.text? "@deviceID"
    name := ← f.text? "name"
    deviceType := ← f.text? "type"
    moduleType := ← f.text? "moduleType"
    components := ← (← (← f.nested? "components").items? "component").mapM Component.ofFields? }

/-- Reads a connection. -/
def Connection.ofFields? (f : Fields) : Option Connection := do
  return { kind := ← f.text? "@type", address := ← f.text? "ipAddress" }

/-- Reads the half of a document that says where a device is reached. -/
def Network.ofText? (text : String) : Option Network := do
  let f ← Fields.ofText? text
  return { connections := ← (← f.items? "networkInfo").mapM Connection.ofFields? }

/-- The last part of a category, if there is one. -/
def Identity.last? (i : Identity) (category : String) : Option Component :=
  i.components.reverse.find? (·.category == category)

/-- The connection of the module that talks to the network: the first one that is listed. -/
def Network.main? (n : Network) : Option Connection :=
  n.connections.find? (·.kind == Component.controlModule)

/-! ## The record as a document -/

namespace Device

/-- The record that both halves of a document make up together. Of several parts of one category the
last one counts. -/
def ofHalves (i : Identity) (n : Network) : Device :=
  let control? := i.last? Component.controlModule
  let product? := i.last? Component.packagedProduct
  { id := i.deviceId
    name := i.name
    productCode := joinProductCode i.deviceType i.moduleType
    firmware := (control?.map (·.softwareVersion)).getD ""
    serial := (control?.map (·.serialNumber)).getD ""
    productSerial := (product?.map (·.serialNumber)).getD ""
    address := (n.main?.map (·.address)).getD "" }

/-- Reads the record in a document. -/
def ofText? (text : String) : Option Device := do
  return ofHalves (← Identity.ofText? text) (← Network.ofText? text)

/-- A record as an element. -/
def toElement (d : Device) : Element Attributes :=
  let (deviceType, moduleType) := splitProductCode d.productCode
  ((Element.named "info").attr "deviceID" d.id).append
    [.leaf "name" d.name,
      .leaf "type" deviceType,
      .leaf "moduleType" moduleType,
      (Element.named "components").append
        [(Element.named "component").append
          [.leaf "componentCategory" Component.controlModule,
            .leaf "softwareVersion" d.firmware,
            .leaf "serialNumber" d.serial],
          (Element.named "component").append
            [.leaf "componentCategory" Component.packagedProduct,
              .leaf "serialNumber" d.productSerial]],
      ((Element.named "networkInfo").attr "type" Component.controlModule).child
        (.leaf "ipAddress" d.address)]

end Device

end SpeakerHub
