import Sdrgg.ProofKit.Numeral
import Sdrgg.Usb.Control
import Mathlib.Data.List.DropRight

/-! `usb::enumerate`: the receivers among the entries of `/sys/bus/usb/devices`, by the attributes that
sysfs shows of each. -/

namespace Sdrgg.Usb

open ProofKit

/-- The bytes of a name, a path or a file, one character each. -/
abbrev Text := List Char

/-- The directory in which sysfs shows the devices. -/
def sysDevices : Text := "/sys/bus/usb/devices/".toList

/-- The directory of the device files. -/
def busDevices : Text := "/dev/bus/usb/".toList

@[simp] theorem length_sysDevices : sysDevices.length = 21 := rfl

@[simp] theorem length_busDevices : busDevices.length = 13 := rfl

/-- What a process sees of sysfs: the entries of `/sys/bus/usb/devices` in the order of `readdir`, none
when the directory cannot be opened, and the content of each file that can be opened. -/
structure Sysfs where
  entries : Option (List Text)
  file : Text → Option Text

/-- `snprintf` of a text into a buffer of `size` bytes. -/
def snprintf (size : Nat) (text : Text) : Text := text.take (size - 1)

/-- A `read` of a file into a buffer of `size` bytes that leaves room for the final zero; none when the
file cannot be opened or nothing is read. -/
def Sysfs.readInto (fs : Sysfs) (size : Nat) (path : Text) : Option Text :=
  (fs.file path).bind fun content => if content = [] then none else some (content.take (size - 1))

/-- `strtoul` in base 16. -/
def strtoul16 (s : Text) : UInt64 :=
  let (negative, s) := splitSign (s.dropWhile isSpace)
  match scanNat 16 (skipHexPrefix s) with
  | none => 0
  | some (n, _) =>
    if 2 ^ 64 ≤ n then 0xFFFFFFFFFFFFFFFF
    else if negative then -UInt64.ofNat n else UInt64.ofNat n

/-- The `int` that `strtol` and `scanf` make of a number, which saturates as a `long` first. -/
def intOfLong (x : Int) : Int32 :=
  Int32.ofInt (max (-0x8000000000000000) (min 0x7FFFFFFFFFFFFFFF x))

def atoi (s : Text) : Int32 :=
  match scanInt s with
  | none => 0
  | some (x, _) => intOfLong x

/-- `(uint8_t)` of an `int`. -/
def lowByte (x : Int32) : UInt8 := x.toUInt32.toUInt8

/-- The path of an attribute in a buffer of 256 bytes. -/
def attrPath (dir attr : Text) : Text := snprintf 256 (dir ++ '/' :: attr)

/-- `read_sysfs_attr_u16`. -/
def readSysfsAttrU16 (fs : Sysfs) (dir attr : Text) : Option UInt16 :=
  (fs.readInto 16 (attrPath dir attr)).map fun buf => (strtoul16 buf).toUInt16

def isLineBreak (c : Char) : Bool := c = '\n' || c = '\r'

/-- `read_sysfs_attr_str` with a buffer of `outSize` bytes. -/
def readSysfsAttrStr (fs : Sysfs) (dir attr : Text) (outSize : Nat) : Option Text :=
  (fs.readInto outSize (attrPath dir attr)).map fun out => out.rdropWhile isLineBreak

/-- `sdrgg_devinfo_t`. -/
structure Devinfo where
  path : Text
  vid : UInt16
  pid : UInt16
  serial : Text
  bus : UInt8
  devaddr : UInt8
  tuner : TunerType
deriving DecidableEq, Repr

/-- The device file of a device. -/
def devicePath (busnum devnum : Int32) : Text :=
  snprintf 64
    (busDevices ++ printInt 3 busnum.toInt ++ '/' :: printInt 3 devnum.toInt)

/-- What an entry of the directory does to `devs[found]`: nothing, the beginning of a record, or a
record that counts. -/
inductive Found where
  | skipped
  | begun (info : Devinfo)
  | counted (info : Devinfo)
deriving DecidableEq, Repr

/-- The record of a receiver in the directory `sysdir`. -/
def examineReceiver (fs : Sysfs) (sysdir : Text) (vid pid : UInt16) : Found :=
  let info : Devinfo := ⟨[], vid, pid, [], 0, 0, .unknown⟩
  match readSysfsAttrStr fs sysdir "busnum".toList 8 with
  | none => .begun info
  | some busnumStr =>
    match readSysfsAttrStr fs sysdir "devnum".toList 8 with
    | none => .begun info
    | some devnumStr =>
      let busnum := atoi busnumStr
      let devnum := atoi devnumStr
      .counted { info with
        path := devicePath busnum devnum
        bus := lowByte busnum
        devaddr := lowByte devnum
        serial := (readSysfsAttrStr fs sysdir "serial".toList 64).getD [] }

/-- `SDRGG_USB_VID_REALTEK` with one of the two product identifiers. -/
def isReceiver (vid pid : UInt16) : Bool := vid = 0x0BDA && (pid = 0x2832 || pid = 0x2838)

/-- The entry with the directory `sysdir`. -/
def examineDir (fs : Sysfs) (sysdir : Text) : Found :=
  match readSysfsAttrU16 fs sysdir "idVendor".toList with
  | none => .skipped
  | some vid =>
    match readSysfsAttrU16 fs sysdir "idProduct".toList with
    | none => .skipped
    | some pid => if isReceiver vid pid then examineReceiver fs sysdir vid pid else .skipped

/-- The body of the loop of `usb::enumerate` for one entry. -/
def examine (fs : Sysfs) (name : Text) : Found :=
  if name.head? = some '.' then .skipped
  else if (sysDevices ++ name).length ≥ 256 then .skipped
  else examineDir fs (sysDevices ++ name)

/-- The loop of `usb::enumerate` over the entries that are left. -/
def enumerateFrom (fs : Sysfs) (maxDevs : Int32) :
    List Text → Nat → List Devinfo → Nat × List Devinfo
  | [], found, devs => (found, devs)
  | name :: rest, found, devs =>
    if (found : Int) < maxDevs.toInt then
      match examine fs name with
      | .skipped => enumerateFrom fs maxDevs rest found devs
      | .begun info => enumerateFrom fs maxDevs rest found (devs.set found info)
      | .counted info => enumerateFrom fs maxDevs rest (found + 1) (devs.set found info)
    else (found, devs)

/-- `usb::enumerate`: the number of devices found, and the caller's array. -/
def enumerate (fs : Sysfs) (devs : List Devinfo) (maxDevs : Int32) : Nat × List Devinfo :=
  match fs.entries with
  | none => (0, devs)
  | some names => enumerateFrom fs maxDevs names 0 devs

/-! ### The loop -/

/-- The record of an entry that counts. -/
def Found.record : Found → Option Devinfo
  | .counted info => some info
  | .skipped | .begun _ => none

/-- The records of all entries that count. -/
def records (fs : Sysfs) : List Devinfo :=
  (fs.entries.getD []).filterMap fun name => (examine fs name).record

/-- `devs` begins with `infos`, and agrees with `old` after the record that follows them, which may have
been begun while there is room for it. -/
structure Filled (limit : Nat) (old infos devs : List Devinfo) : Prop where
  length : devs.length = old.length
  room : infos.length ≤ limit
  first : devs.take infos.length = infos
  rest : devs.drop (infos.length + 1) = old.drop (infos.length + 1)
  full : infos.length = limit → devs.drop limit = old.drop limit

section Loop

variable {fs : Sysfs} {limit : Nat} {old infos devs : List Devinfo}

theorem Filled.begin (info : Devinfo) (h : Filled limit old infos devs) (hlt : infos.length < limit) :
    Filled limit old infos (devs.set infos.length info) where
  length := by rw [List.length_set, h.length]
  room := h.room
  first := by rw [List.take_set_of_le (Nat.le_refl _), h.first]
  rest := by rw [List.drop_set_of_lt (Nat.lt_succ_self _), h.rest]
  full hfull := absurd hfull (Nat.ne_of_lt hlt)

theorem Filled.count (info : Devinfo) (h : Filled limit old infos devs) (hlt : infos.length < limit)
    (hmax : limit ≤ old.length) :
    Filled limit old (infos ++ [info]) (devs.set infos.length info) := by
  have hlen : infos.length < devs.length := by
    rw [h.length]
    omega
  have hlast : (infos ++ [info]).length = infos.length + 1 := by simp
  have hdrop : (devs.set infos.length info).drop (infos.length + 1) = old.drop (infos.length + 1) := by
    rw [List.drop_set_of_lt (Nat.lt_succ_self _), h.rest]
  refine ⟨by rw [List.length_set, h.length], by omega, ?_, ?_, fun hfull => ?_⟩
  · rw [hlast, List.take_succ_eq_append_getElem (by simpa using hlen), List.getElem_set_self,
      List.take_set_of_le (Nat.le_refl _), h.first]
  · rw [hlast, ← List.drop_drop, hdrop, List.drop_drop]
  · rw [← hfull, hlast, hdrop]

theorem enumerateFrom_filled {maxDevs : Int32} {names : List Text}
    (h : Filled maxDevs.toInt.toNat old infos devs) (hmax : maxDevs.toInt.toNat ≤ old.length) :
    ∃ devs', enumerateFrom fs maxDevs names infos.length devs =
        ((infos ++ (names.filterMap fun name => (examine fs name).record)).take
          maxDevs.toInt.toNat |>.length, devs') ∧
      Filled maxDevs.toInt.toNat old
        ((infos ++ (names.filterMap fun name => (examine fs name).record)).take maxDevs.toInt.toNat)
        devs' := by
  induction names generalizing infos devs with
  | nil =>
    have htake := List.take_of_length_le h.room
    simp only [enumerateFrom, List.filterMap_nil, List.append_nil, htake]
    exact ⟨devs, rfl, h⟩
  | cons name rest ih =>
    by_cases hlt : infos.length < maxDevs.toInt.toNat
    · have hcond : (infos.length : Int) < maxDevs.toInt := by omega
      simp only [enumerateFrom, if_pos hcond]
      cases hfound : examine fs name with
      | skipped =>
        simpa only [List.filterMap_cons, hfound, Found.record] using ih h
      | begun info =>
        simpa only [List.filterMap_cons, hfound, Found.record] using ih (h.begin info hlt)
      | counted info =>
        have hrest := ih (h.count info hlt hmax)
        rw [List.length_append, List.length_singleton] at hrest
        simpa only [List.filterMap_cons, hfound, Found.record, List.append_assoc,
          List.singleton_append] using hrest
    · have hcond : ¬(infos.length : Int) < maxDevs.toInt := by omega
      have hroom := h.room
      have htake : (infos ++ ((name :: rest).filterMap fun name => (examine fs name).record)).take
          maxDevs.toInt.toNat = infos := by
        rw [show maxDevs.toInt.toNat = infos.length by omega, List.take_left]
      simp only [enumerateFrom, if_neg hcond, htake]
      exact ⟨devs, rfl, h⟩

/-- `usb::enumerate` returns the first records of the directory, as many as the array has room for, and
touches nothing of the array behind the record after them, nor anything from `max_devs` on. -/
theorem enumerate_filled (fs : Sysfs) {devs : List Devinfo} {maxDevs : Int32}
    (hmax : maxDevs.toInt.toNat ≤ devs.length) : ∃ devs',
    enumerate fs devs maxDevs = (((records fs).take maxDevs.toInt.toNat).length, devs') ∧
      Filled maxDevs.toInt.toNat devs ((records fs).take maxDevs.toInt.toNat) devs' := by
  have hstart : Filled maxDevs.toInt.toNat devs [] devs :=
    ⟨rfl, Nat.zero_le _, rfl, rfl, fun _ => rfl⟩
  cases hentries : fs.entries with
  | none =>
    simp only [enumerate, hentries, records, Option.getD_none, List.filterMap_nil, List.take_nil]
    exact ⟨devs, rfl, hstart⟩
  | some names =>
    simp only [enumerate, hentries, records, Option.getD_some]
    exact enumerateFrom_filled hstart hmax

end Loop

/-! ### A bus as the kernel shows it -/

/-- A device on the bus. -/
structure UsbDevice where
  vid : UInt16
  pid : UInt16
  busnum : Nat
  devnum : Nat
  serial : Option Text
deriving DecidableEq, Repr

/-- An entry of `/sys/bus/usb/devices`: a device, or an interface or the like. -/
structure Node where
  name : Text
  device : Option UsbDevice
deriving DecidableEq, Repr

def hexLine (n : UInt16) : Text := printNat 16 4 n.toNat ++ ['\n']

def decimalLine (n : Nat) : Text := printNat 10 0 n ++ ['\n']

/-- The file of an attribute. -/
def attrFile (name attr : Text) : Text := sysDevices ++ name ++ '/' :: attr

/-- `fs` shows the attributes of the devices among the nodes as the kernel writes them, and no node
else has any. -/
structure Shows (fs : Sysfs) (nodes : List Node) : Prop where
  entries : fs.entries = some (nodes.map Node.name)
  names : ∀ n ∈ nodes, n.name.length ≤ 200 ∧ (n.device.isSome = true → n.name.head? ≠ some '.')
  numbers : ∀ n ∈ nodes, ∀ d ∈ n.device, d.busnum < 10000000 ∧ d.devnum < 10000000
  idVendor : ∀ n ∈ nodes, fs.file (attrFile n.name "idVendor".toList) =
    n.device.map fun d => hexLine d.vid
  idProduct : ∀ n ∈ nodes, fs.file (attrFile n.name "idProduct".toList) =
    n.device.map fun d => hexLine d.pid
  busnum : ∀ n ∈ nodes, fs.file (attrFile n.name "busnum".toList) =
    n.device.map fun d => decimalLine d.busnum
  devnum : ∀ n ∈ nodes, fs.file (attrFile n.name "devnum".toList) =
    n.device.map fun d => decimalLine d.devnum
  serial : ∀ n ∈ nodes, fs.file (attrFile n.name "serial".toList) =
    (n.device.bind UsbDevice.serial).map fun s => s ++ ['\n']

/-- The record of a device.  A serial text is cut off to what its buffer holds, and line breaks at its
end are dropped. -/
def UsbDevice.info (d : UsbDevice) : Devinfo where
  path := busDevices ++ printNat 10 3 d.busnum ++ '/' :: printNat 10 3 d.devnum
  vid := d.vid
  pid := d.pid
  serial := ((d.serial.getD []).take 63).rdropWhile isLineBreak
  bus := UInt8.ofNat d.busnum
  devaddr := UInt8.ofNat d.devnum
  tuner := .unknown

/-- The record of a node that is a receiver. -/
def Node.record (n : Node) : Option Devinfo :=
  n.device.bind fun d => if isReceiver d.vid d.pid then some d.info else none

section Lines

theorem skipHexPrefix_eq {s : Text} (h : ∀ c ∈ s, c ≠ 'x' ∧ c ≠ 'X') : skipHexPrefix s = s := by
  unfold skipHexPrefix
  split
  · exact absurd rfl (h 'x' (by simp)).1
  · exact absurd rfl (h 'X' (by simp)).2
  · rfl

theorem isDigitOf_newline (base : Nat) (hbase : base ≤ 36) : isDigitOf base '\n' = false :=
  decide_eq_false (Nat.not_lt.mpr hbase)

/-- A line of a 16-bit identifier is read back as it was written. -/
theorem strtoul16_hexLine (n : UInt16) : (strtoul16 (hexLine n)).toUInt16 = n := by
  have hdigits : ∀ c ∈ printNat 16 4 n.toNat, isDigitOf 16 c = true :=
    fun c => isDigitOf_of_mem_printNat (by decide) (by decide)
  have hends : ∀ c ∈ ['\n'].head?, isDigitOf 16 c = false := by
    simp [isDigitOf_newline]
  have hskip : skipHexPrefix (hexLine n) = hexLine n := by
    refine skipHexPrefix_eq fun c hc => ?_
    obtain hc | hc := List.mem_append.mp hc
    · refine ⟨?_, ?_⟩ <;> rintro rfl <;> exact absurd (hdigits _ hc) (by decide)
    · obtain rfl := List.mem_singleton.mp hc
      decide
  have hsplit : splitSign ((hexLine n).dropWhile isSpace) = (false, hexLine n) := by
    have hne : printNat 16 4 n.toNat ≠ [] := printNat_ne_nil
    obtain ⟨c, s, hcons⟩ := List.exists_cons_of_ne_nil hne
    rw [hexLine, hcons, List.cons_append]
    exact splitSign_of_isDigitOf (by decide) (hdigits c (hcons ▸ List.mem_cons_self)) _
  have hscan : scanNat 16 (hexLine n) = some (n.toNat, ['\n']) :=
    scanNat_printNat (by decide) (by decide) hends
  have hlt := n.toNat_lt
  have hsmall : ¬2 ^ 64 ≤ n.toNat := by omega
  simp only [strtoul16, hsplit, hskip, hscan, if_neg hsmall, Bool.false_eq_true, if_false]
  rw [← UInt16.toNat_inj, UInt64.toNat_toUInt16, UInt64.toNat_ofNat']
  omega

theorem atoi_printInt {x : Int} {width : Nat} {rest : Text}
    (hrest : ∀ c ∈ rest.head?, isDigitOf 10 c = false) (hlow : -0x8000000000000000 ≤ x)
    (hhigh : x ≤ 0x7FFFFFFFFFFFFFFF) : atoi (printInt width x ++ rest) = Int32.ofInt x := by
  simp only [atoi, scanInt_printInt x hrest, intOfLong]
  rw [min_eq_right hhigh, max_eq_right hlow]

theorem printInt_ofNat (width n : Nat) : printInt width n = printNat 10 width n :=
  if_neg (by omega)

theorem atoi_printNat {n : Nat} (hn : n < 10000000) : atoi (printNat 10 0 n) = Int32.ofNat n := by
  have h := @atoi_printInt n 0 [] (by simp) (by omega) (by omega)
  rwa [printInt_ofNat, List.append_nil] at h

/-- A line that is cut off to a length, less the line breaks at its end. -/
theorem rdropWhile_line (s : Text) (k : Nat) :
    ((s ++ ['\n']).take k).rdropWhile isLineBreak = (s.take k).rdropWhile isLineBreak := by
  by_cases hk : k ≤ s.length
  · rw [List.take_append_of_le_length hk]
  · rw [List.take_of_length_le (by simp; omega), List.rdropWhile_concat_pos _ _ _ rfl,
      List.take_of_length_le (by omega)]

theorem rdropWhile_plain {s : Text} (h : ∀ c ∈ s, isLineBreak c = false) :
    s.rdropWhile isLineBreak = s := by
  rw [List.rdropWhile_eq_self_iff]
  intro hne
  simp [h _ (List.getLast_mem hne)]

end Lines

section Bus

variable {fs : Sysfs} {nodes : List Node} {n : Node} {d : UsbDevice}

/-- The path of an attribute of a node fits into its buffer. -/
theorem attrPath_eq {name attr : Text} (hname : name.length ≤ 200) (hattr : attr.length ≤ 20) :
    attrPath (sysDevices ++ name) attr = attrFile name attr := by
  refine List.take_of_length_le ?_
  simp only [List.length_append, List.length_cons, length_sysDevices]
  omega

theorem readInto_of_content {path content : Text} {size : Nat} (hfile : fs.file path = some content)
    (hne : content ≠ []) : fs.readInto size path = some (content.take (size - 1)) := by
  simp [Sysfs.readInto, hfile, hne]

theorem readSysfsAttrU16_hexLine {name attr : Text} {value : UInt16} (hname : name.length ≤ 200)
    (hattr : attr.length ≤ 20) (hfile : fs.file (attrFile name attr) = some (hexLine value)) :
    readSysfsAttrU16 fs (sysDevices ++ name) attr = some value := by
  have hlen : (hexLine value).length ≤ 15 := by
    have hdigits : (printNat 16 4 value.toNat).length ≤ 4 :=
      length_printNat_le (by decide) (by decide) (Nat.le_refl 4) value.toNat_lt
    simp only [hexLine, List.length_append, List.length_singleton]
    omega
  rw [readSysfsAttrU16, attrPath_eq hname hattr, readInto_of_content hfile (by simp [hexLine]),
    Option.map_some, List.take_of_length_le hlen, strtoul16_hexLine]

/-- A line is read without its line break, as far as the buffer holds it. -/
theorem readSysfsAttrStr_line {name attr s : Text} {size : Nat} (hname : name.length ≤ 200)
    (hattr : attr.length ≤ 20) (hfile : fs.file (attrFile name attr) = some (s ++ ['\n'])) :
    readSysfsAttrStr fs (sysDevices ++ name) attr size =
      some ((s.take (size - 1)).rdropWhile isLineBreak) := by
  rw [readSysfsAttrStr, attrPath_eq hname hattr, readInto_of_content hfile (by simp),
    Option.map_some, rdropWhile_line]

theorem readSysfsAttrStr_none {name attr : Text} {size : Nat} (hname : name.length ≤ 200)
    (hattr : attr.length ≤ 20) (hfile : fs.file (attrFile name attr) = none) :
    readSysfsAttrStr fs (sysDevices ++ name) attr size = none := by
  rw [readSysfsAttrStr, attrPath_eq hname hattr, Sysfs.readInto, hfile, Option.bind_none,
    Option.map_none]

theorem decimal_plain (n : Nat) : ∀ c ∈ printNat 10 0 n, isLineBreak c = false := by
  intro c hc
  have hdigit : isDigitOf 10 c = true := isDigitOf_of_mem_printNat (by decide) (by decide) hc
  refine Bool.or_eq_false_iff.mpr ⟨decide_eq_false ?_, decide_eq_false ?_⟩ <;> rintro rfl <;>
    exact absurd hdigit (by decide)

/-- A number of at most seven digits is read back as it was written. -/
theorem readSysfsAttrStr_decimalLine {name attr : Text} {value size : Nat} (hsize : 8 ≤ size)
    (hname : name.length ≤ 200) (hattr : attr.length ≤ 20) (hvalue : value < 10000000)
    (hfile : fs.file (attrFile name attr) = some (decimalLine value)) :
    readSysfsAttrStr fs (sysDevices ++ name) attr size =
      some (printNat 10 0 value) := by
  have hlen : (printNat 10 0 value).length ≤ 7 :=
    length_printNat_le (by decide) (by decide) (by decide) hvalue
  rw [readSysfsAttrStr_line hname hattr hfile, List.take_of_length_le (by omega),
    rdropWhile_plain (decimal_plain value)]

theorem devicePath_ofNat {busnum devnum : Nat} (hbus : busnum < 10000000)
    (hdev : devnum < 10000000) : devicePath (Int32.ofNat busnum) (Int32.ofNat devnum) =
      busDevices ++ printNat 10 3 busnum ++ '/' :: printNat 10 3 devnum := by
  have hlen {k : Nat} (hk : k < 10000000) : (printNat 10 3 k).length ≤ 7 :=
    length_printNat_le (by decide) (by decide) (by decide) hk
  have hbusLen := hlen hbus
  have hdevLen := hlen hdev
  rw [devicePath, Int32.toInt_ofNat_of_lt (by omega), Int32.toInt_ofNat_of_lt (by omega),
    printInt_ofNat, printInt_ofNat]
  refine List.take_of_length_le ?_
  simp only [List.length_append, List.length_cons, length_busDevices]
  omega

theorem readSysfsAttrStr_serial (h : Shows fs nodes) (hn : n ∈ nodes) (hdevice : n.device = some d) :
    (readSysfsAttrStr fs (sysDevices ++ n.name) "serial".toList 64).getD [] =
      ((d.serial.getD []).take 63).rdropWhile isLineBreak := by
  have hname := (h.names n hn).1
  have hserial := h.serial n hn
  rw [hdevice, Option.bind_some] at hserial
  cases hs : d.serial with
  | none =>
    rw [readSysfsAttrStr_none hname (by decide) (by rw [hserial, hs]; rfl)]
    rfl
  | some s =>
    rw [readSysfsAttrStr_line hname (by decide) (by rw [hserial, hs]; rfl)]
    rfl

theorem lowByte_ofNat (n : Nat) : lowByte (Int32.ofNat n) = UInt8.ofNat n := by
  rw [lowByte, ← UInt8.toNat_inj]
  simp

/-- The record that the loop makes for a device. -/
theorem examineReceiver_node (h : Shows fs nodes) (hn : n ∈ nodes) (hdevice : n.device = some d) :
    examineReceiver fs (sysDevices ++ n.name) d.vid d.pid = .counted d.info := by
  have hname := (h.names n hn).1
  have hbus := h.busnum n hn
  have hdev := h.devnum n hn
  obtain ⟨hbusnum, hdevnum⟩ := h.numbers n hn d hdevice
  rw [hdevice] at hbus hdev
  rw [examineReceiver,
    readSysfsAttrStr_decimalLine (Nat.le_refl 8) hname (by decide) hbusnum hbus]
  dsimp only
  rw [readSysfsAttrStr_decimalLine (Nat.le_refl 8) hname (by decide) hdevnum hdev]
  dsimp only
  rw [atoi_printNat hbusnum, atoi_printNat hdevnum, devicePath_ofNat hbusnum hdevnum,
    readSysfsAttrStr_serial h hn hdevice, lowByte_ofNat, lowByte_ofNat, UsbDevice.info]

theorem examineDir_node (h : Shows fs nodes) (hn : n ∈ nodes) :
    (examineDir fs (sysDevices ++ n.name)).record = n.record := by
  have hname := (h.names n hn).1
  have hvendor := h.idVendor n hn
  cases hdevice : n.device with
  | none =>
    rw [hdevice] at hvendor
    have hnone : readSysfsAttrU16 fs (sysDevices ++ n.name) "idVendor".toList =
        none := by
      rw [readSysfsAttrU16, attrPath_eq hname (by decide), Sysfs.readInto, hvendor]
      rfl
    rw [examineDir, hnone, Node.record, hdevice]
    rfl
  | some d =>
    have hproduct := h.idProduct n hn
    rw [hdevice] at hvendor hproduct
    rw [examineDir, readSysfsAttrU16_hexLine hname (by decide) hvendor]
    dsimp only
    rw [readSysfsAttrU16_hexLine hname (by decide) hproduct]
    dsimp only
    rw [examineReceiver_node h hn hdevice, Node.record, hdevice, Option.bind_some]
    cases isReceiver d.vid d.pid <;> rfl

/-- What the loop makes of a node. -/
theorem examine_node (h : Shows fs nodes) (hn : n ∈ nodes) :
    (examine fs n.name).record = n.record := by
  obtain ⟨hname, hdot⟩ := h.names n hn
  have hshort : ¬(sysDevices ++ n.name).length ≥ 256 := by
    rw [List.length_append, length_sysDevices]
    omega
  by_cases hhidden : n.name.head? = some '.'
  · have hdevice : n.device = none := by
      by_contra hsome
      exact hdot (Option.isSome_iff_ne_none.mpr hsome) hhidden
    rw [examine, if_pos hhidden, Node.record, hdevice]
    rfl
  · rw [examine, if_neg hhidden, if_neg hshort, examineDir_node h hn]

theorem records_eq (h : Shows fs nodes) : records fs = nodes.filterMap Node.record := by
  rw [records, h.entries, Option.getD_some, List.filterMap_map]
  exact List.filterMap_congr fun n hn => examine_node h hn

/-- On a bus as the kernel shows it, `usb::enumerate` finds the receivers and nothing else, in the order
of the directory and as many as the array has room for. -/
theorem enumerate_receivers {devs : List Devinfo} {maxDevs : Int32} (h : Shows fs nodes)
    (hmax : maxDevs.toInt.toNat ≤ devs.length) : ∃ devs',
    enumerate fs devs maxDevs =
      (((nodes.filterMap Node.record).take maxDevs.toInt.toNat).length, devs') ∧
    devs'.length = devs.length ∧
    devs'.take ((nodes.filterMap Node.record).take maxDevs.toInt.toNat).length =
      (nodes.filterMap Node.record).take maxDevs.toInt.toNat ∧
    devs'.drop maxDevs.toInt.toNat = devs.drop maxDevs.toInt.toNat := by
  obtain ⟨devs', hrun, hfilled⟩ := enumerate_filled fs hmax
  rw [records_eq h] at hrun hfilled
  refine ⟨devs', hrun, hfilled.length, hfilled.first, ?_⟩
  obtain hfull | hroom := Nat.eq_or_lt_of_le hfilled.room
  · exact hfilled.full hfull
  · have hrest := congrArg (List.drop (maxDevs.toInt.toNat -
      (((nodes.filterMap Node.record).take maxDevs.toInt.toNat).length + 1))) hfilled.rest
    rwa [List.drop_drop, List.drop_drop, Nat.add_sub_cancel' hroom] at hrest

end Bus

/-- The attributes of a device by name. -/
def UsbDevice.attributes (d : UsbDevice) : List (Text × Text) :=
  [("idVendor".toList, hexLine d.vid), ("idProduct".toList, hexLine d.pid),
    ("busnum".toList, decimalLine d.busnum), ("devnum".toList, decimalLine d.devnum)] ++
    d.serial.toList.map fun s => ("serial".toList, s ++ ['\n'])

/-- The sysfs of a bus. -/
def sysfsOf (nodes : List Node) : Sysfs where
  entries := some (nodes.map Node.name)
  file path := nodes.findSome? fun n => n.device.bind fun d =>
    d.attributes.findSome? fun a => if path = attrFile n.name a.1 then some a.2 else none

/-- A root hub with two receivers and an interface of the first, whose serial text ends in a line
break. -/
def sampleBus : List Node :=
  [⟨"..".toList, none⟩, ⟨"usb1".toList, some ⟨0x1D6B, 0x0002, 1, 1, none⟩⟩,
    ⟨"1-1.2".toList, some ⟨0x0BDA, 0x2838, 1, 4, some "00000001\r".toList⟩⟩,
    ⟨"1-1.2:1.0".toList, none⟩, ⟨"1-1.4".toList, some ⟨0x0BDA, 0x2832, 1, 12, none⟩⟩]

theorem sampleBus_shown : Shows (sysfsOf sampleBus) sampleBus := by
  constructor
  · rfl
  all_goals decide +kernel

/-- An array of one record, of which there are two to find. -/
theorem enumerate_receivers_sample : ∃ devs',
    enumerate (sysfsOf sampleBus) [⟨[], 0, 0, [], 0, 0, .unknown⟩] 1 = (1, devs') ∧
    devs' = [⟨"/dev/bus/usb/001/004".toList, 0x0BDA, 0x2838, "00000001".toList, 1, 4, .unknown⟩] := by
  obtain ⟨devs', hrun, hlen, hfirst, -⟩ :=
    @enumerate_receivers _ _ [⟨[], 0, 0, [], 0, 0, .unknown⟩] 1 sampleBus_shown (Nat.le_refl 1)
  refine ⟨devs', hrun, ?_⟩
  rw [← List.take_of_length_le (Nat.le_of_eq hlen)]
  exact hfirst

end Sdrgg.Usb
