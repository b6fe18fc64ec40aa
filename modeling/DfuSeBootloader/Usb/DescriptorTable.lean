import DfuSeBootloader.Codec.Records
import DfuSeBootloader.Memory.Basic
import DfuSeBootloader.Usb.Descriptors
import DfuSeBootloader.Usb.Device

/-!
# Descriptors

The descriptors of `Descriptors.c` in the types of `StdDescriptors.h`, as the bytes that they occupy
in memory. All of these types are packed.
-/

namespace DfuSeBootloader.Usb
open Codec Memory

/-! ## Types -/

def DTYPE_Device : UInt8 := 0x01
def DTYPE_Configuration : UInt8 := 0x02
def DTYPE_String : UInt8 := 0x03
def DTYPE_Interface : UInt8 := 0x04
def DTYPE_DFUFunctional : UInt8 := 0x21
def NO_DESCRIPTOR : UInt8 := 0
def USB_CONFIG_ATTR_BUSPOWERED : UInt8 := 0x80
def USB_CONFIG_ATTR_SELFPOWERED : UInt8 := 0x40
def ATTR_WILL_DETATCH : UInt8 := (1 : UInt8) <<< 3
def ATTR_MANEFESTATION_TOLLERANT : UInt8 := (1 : UInt8) <<< 2
def ATTR_CAN_UPLOAD : UInt8 := (1 : UInt8) <<< 1
def ATTR_CAN_DOWNLOAD : UInt8 := (1 : UInt8) <<< 0
def LANGUAGE_ID_ENG : UInt16 := 0x0409

def USB_CONFIG_POWER_MA (mA : UInt8) : UInt8 := mA >>> 1

/-- The size of a string descriptor of `UnicodeChars` characters. -/
def USB_STRING_LEN (UnicodeChars : UInt8) : UInt8 := (UnicodeChars <<< 1) + 2

structure USB_Descriptor_Header_t where
  Size : UInt8
  type : UInt8
  deriving DecidableEq, Repr

structure USB_Descriptor_Device_t where
  Header : USB_Descriptor_Header_t
  USBSpecification : UInt16
  Class : UInt8
  SubClass : UInt8
  Protocol : UInt8
  Endpoint0Size : UInt8
  VendorID : UInt16
  ProductID : UInt16
  ReleaseNumber : UInt16
  ManufacturerStrIndex : UInt8
  ProductStrIndex : UInt8
  SerialNumStrIndex : UInt8
  NumberOfConfigurations : UInt8
  deriving DecidableEq, Repr

structure USB_Descriptor_Configuration_Header_t where
  Header : USB_Descriptor_Header_t
  TotalConfigurationSize : UInt16
  TotalInterfaces : UInt8
  ConfigurationNumber : UInt8
  ConfigurationStrIndex : UInt8
  ConfigAttributes : UInt8
  MaxPowerConsumption : UInt8
  deriving DecidableEq, Repr

structure USB_Descriptor_Interface_t where
  Header : USB_Descriptor_Header_t
  InterfaceNumber : UInt8
  AlternateSetting : UInt8
  TotalEndpoints : UInt8
  Class : UInt8
  SubClass : UInt8
  Protocol : UInt8
  InterfaceStrIndex : UInt8
  deriving DecidableEq, Repr

structure USB_Descriptor_DFU_Functional_t where
  Header : USB_Descriptor_Header_t
  Attributes : UInt8
  DetachTimeout : UInt16
  TransferSize : UInt16
  DFUSpecification : UInt16
  deriving DecidableEq, Repr

structure USB_Descriptor_DfuConfiguration_t where
  Config : USB_Descriptor_Configuration_Header_t
  DFU_Interface : USB_Descriptor_Interface_t
  DFU_Functional : USB_Descriptor_DFU_Functional_t
  deriving DecidableEq, Repr

/-- `UnicodeString` holds the characters that are not zero behind the last of them: the array has 64
elements. -/
structure USB_Descriptor_String_t where
  Header : USB_Descriptor_Header_t
  UnicodeString : List UInt16
  deriving DecidableEq, Repr

/-! ## Bytes -/

def USB_Descriptor_Header_t.bytes (h : USB_Descriptor_Header_t) : List UInt8 := [h.Size, h.type]

def USB_Descriptor_Device_t.bytes (d : USB_Descriptor_Device_t) : List UInt8 :=
  d.Header.bytes ++ le16 d.USBSpecification ++ [d.Class, d.SubClass, d.Protocol, d.Endpoint0Size] ++
    le16 d.VendorID ++ le16 d.ProductID ++ le16 d.ReleaseNumber ++
    [d.ManufacturerStrIndex, d.ProductStrIndex, d.SerialNumStrIndex, d.NumberOfConfigurations]

def USB_Descriptor_Configuration_Header_t.bytes (c : USB_Descriptor_Configuration_Header_t) :
    List UInt8 :=
  c.Header.bytes ++ le16 c.TotalConfigurationSize ++
    [c.TotalInterfaces, c.ConfigurationNumber, c.ConfigurationStrIndex, c.ConfigAttributes,
      c.MaxPowerConsumption]

def USB_Descriptor_Interface_t.bytes (i : USB_Descriptor_Interface_t) : List UInt8 :=
  i.Header.bytes ++
    [i.InterfaceNumber, i.AlternateSetting, i.TotalEndpoints, i.Class, i.SubClass, i.Protocol,
      i.InterfaceStrIndex]

def USB_Descriptor_DFU_Functional_t.bytes (f : USB_Descriptor_DFU_Functional_t) : List UInt8 :=
  f.Header.bytes ++ [f.Attributes] ++ le16 f.DetachTimeout ++ le16 f.TransferSize ++
    le16 f.DFUSpecification

def USB_Descriptor_DfuConfiguration_t.bytes (c : USB_Descriptor_DfuConfiguration_t) : List UInt8 :=
  c.Config.bytes ++ c.DFU_Interface.bytes ++ c.DFU_Functional.bytes

def USB_Descriptor_String_t.bytes (s : USB_Descriptor_String_t) : List UInt8 :=
  s.Header.bytes ++ (slice (padded 0 s.UnicodeString) 0 64).flatMap le16

/-! ## The table -/

def DfuDeviceDescriptor : USB_Descriptor_Device_t where
  Header := ⟨18, DTYPE_Device⟩
  USBSpecification := 0x0200
  Class := 0x00
  SubClass := 0x00
  Protocol := 0x00
  Endpoint0Size := FIXED_CONTROL_ENDPOINT_SIZE.toUInt8
  VendorID := 0x0483
  ProductID := 0xDF11
  ReleaseNumber := 0
  ManufacturerStrIndex := 0x01
  ProductStrIndex := 0x02
  SerialNumStrIndex := NO_DESCRIPTOR
  NumberOfConfigurations := FIXED_NUM_CONFIGURATIONS

def DfuConfigurationDescriptor : USB_Descriptor_DfuConfiguration_t where
  Config :=
    { Header := ⟨9, DTYPE_Configuration⟩
      TotalConfigurationSize := 27
      TotalInterfaces := 1
      ConfigurationNumber := 1
      ConfigurationStrIndex := NO_DESCRIPTOR
      ConfigAttributes := USB_CONFIG_ATTR_BUSPOWERED ||| USB_CONFIG_ATTR_SELFPOWERED
      MaxPowerConsumption := USB_CONFIG_POWER_MA 100 }
  DFU_Interface :=
    { Header := ⟨9, DTYPE_Interface⟩
      InterfaceNumber := 0
      AlternateSetting := 0
      TotalEndpoints := 0
      Class := 0xFE
      SubClass := 0x01
      Protocol := 0x02
      InterfaceStrIndex := 0x03 }
  DFU_Functional :=
    { Header := ⟨9, DTYPE_DFUFunctional⟩
      Attributes := ATTR_MANEFESTATION_TOLLERANT ||| ATTR_WILL_DETATCH ||| ATTR_CAN_UPLOAD |||
        ATTR_CAN_DOWNLOAD
      DetachTimeout := 65535
      TransferSize := DFU_TRANSFER_SIZE.toUInt16
      DFUSpecification := 0x011A }

/-- The characters of a string literal, without the zero that ends it. -/
def characters (s : String) : List UInt16 := s.toList.map (·.toNat.toUInt16)

def LanguageString : USB_Descriptor_String_t := ⟨⟨USB_STRING_LEN 1, DTYPE_String⟩, [LANGUAGE_ID_ENG]⟩

def ManufacturerString : USB_Descriptor_String_t :=
  ⟨⟨USB_STRING_LEN 5, DTYPE_String⟩, characters "PROFI"⟩

def ProductString : USB_Descriptor_String_t :=
  ⟨⟨USB_STRING_LEN 12, DTYPE_String⟩, characters "REDUT DELTA1"⟩

/-- The loop of `CALLBACK_USB_GetDescriptor` has copied `flash_info_str` with its zero. -/
def NameString : USB_Descriptor_String_t :=
  ⟨⟨USB_STRING_LEN (flash_info_str.length + 1).toUInt8, DTYPE_String⟩, characters flash_info_str ++ [0]⟩

/-- The bytes that `CALLBACK_USB_GetDescriptor` points to, as many as it returns. -/
def CALLBACK_USB_GetDescriptor (wValue : UInt16) (_wIndex : UInt8) : List UInt8 :=
  let DescriptorType := (wValue >>> 8).toUInt8
  let DescriptorNumber := (wValue &&& 0xFF).toUInt8
  if DescriptorType = DTYPE_Device then DfuDeviceDescriptor.bytes
  else if DescriptorType = DTYPE_Configuration then DfuConfigurationDescriptor.bytes
  else if DescriptorType = DTYPE_String then
    if DescriptorNumber = 0x00 then LanguageString.bytes.take LanguageString.Header.Size.toNat
    else if DescriptorNumber = 0x01 then
      ManufacturerString.bytes.take ManufacturerString.Header.Size.toNat
    else if DescriptorNumber = 0x02 then ProductString.bytes.take ProductString.Header.Size.toNat
    else if DescriptorNumber = 0x03 then NameString.bytes.take NameString.Header.Size.toNat
    else []
  else []

/-! ## Reading descriptors -/

def USB_Descriptor_Device_t.ofBytes : List UInt8 → Option USB_Descriptor_Device_t
  | [size, type, u, u', cls, sub, protocol, size₀, v, v', p, p', r, r', manufacturer, product, serial,
      configurations] =>
      some ⟨⟨size, type⟩, word u u', cls, sub, protocol, size₀, word v v', word p p', word r r',
        manufacturer, product, serial, configurations⟩
  | _ => none

def USB_Descriptor_Configuration_Header_t.ofBytes :
    List UInt8 → Option USB_Descriptor_Configuration_Header_t
  | [size, type, t, t', interfaces, number, string, attributes, power] =>
      some ⟨⟨size, type⟩, word t t', interfaces, number, string, attributes, power⟩
  | _ => none

def USB_Descriptor_Interface_t.ofBytes : List UInt8 → Option USB_Descriptor_Interface_t
  | [size, type, number, alternate, endpoints, cls, sub, protocol, string] =>
      some ⟨⟨size, type⟩, number, alternate, endpoints, cls, sub, protocol, string⟩
  | _ => none

def USB_Descriptor_DFU_Functional_t.ofBytes : List UInt8 → Option USB_Descriptor_DFU_Functional_t
  | [size, type, attributes, d, d', t, t', s, s'] =>
      some ⟨⟨size, type⟩, attributes, word d d', word t t', word s s'⟩
  | _ => none

/-- The characters of a string descriptor. -/
def stringOfBytes : List UInt8 → Option (List UInt16)
  | _ :: type :: l => if type = DTYPE_String then words l else none
  | _ => none

theorem USB_Descriptor_Device_t.ofBytes_bytes (d : USB_Descriptor_Device_t) :
    ofBytes d.bytes = some d := by
  simp [bytes, ofBytes, USB_Descriptor_Header_t.bytes, le16, word_low_high]

theorem USB_Descriptor_Configuration_Header_t.ofBytes_bytes
    (c : USB_Descriptor_Configuration_Header_t) : ofBytes c.bytes = some c := by
  simp [bytes, ofBytes, USB_Descriptor_Header_t.bytes, le16, word_low_high]

theorem USB_Descriptor_Interface_t.ofBytes_bytes (i : USB_Descriptor_Interface_t) :
    ofBytes i.bytes = some i := by
  simp [bytes, ofBytes, USB_Descriptor_Header_t.bytes]

theorem USB_Descriptor_DFU_Functional_t.ofBytes_bytes (f : USB_Descriptor_DFU_Functional_t) :
    ofBytes f.bytes = some f := by
  simp [bytes, ofBytes, USB_Descriptor_Header_t.bytes, le16, word_low_high]

end DfuSeBootloader.Usb
