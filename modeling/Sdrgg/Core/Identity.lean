import Sdrgg.Usb.Enumerate

/-! Which device a handle stands for: `sdr::open` by index, the identity that `sdr::open_path` derives
from its path, and `reset::reset_power`, which finds the device of a handle in sysfs again. -/

namespace Sdrgg.Sdr

open ProofKit Usb

/-- The text after a literal of a `scanf` format. -/
def expect (literal s : Text) : Option Text :=
  if literal <+: s then some (s.drop literal.length) else none

/-- `sscanf` of `/dev/bus/usb/%d/%d`, when both numbers are there. -/
def scanDevicePath (path : Text) : Option (Int32 × Int32) := do
  let s ← expect busDevices path
  let (bus, s) ← scanInt s
  let s ← expect ['/'] s
  let (devnum, _) ← scanInt s
  return (intOfLong bus, intOfLong devnum)

/-- The path that `sdr::open` passes to `open_path`, when `devs` is what its array holds before. -/
def openIndex (fs : Sysfs) (devs : Fin 8 → Devinfo) (index : Int32) : Option Text :=
  let (count, devs) := enumerate fs (List.ofFn devs) 8
  if index.toInt < 0 ∨ (count : Int) ≤ index.toInt then none
  else (devs[index.toInt.toNat]?).map Devinfo.path

/-- The little-endian word at `i` of a descriptor. -/
def descriptorWord (desc : List UInt8) (i : Nat) : UInt16 :=
  (desc.getD i 0).toUInt16 ||| ((desc.getD (i + 1) 0).toUInt16 <<< 8)

/-- `identity.info` after phase A of `open_path`, with the device descriptor when all of it has been
read. -/
def attachInfo (path : Text) (desc : Option (List UInt8)) : Devinfo where
  path := path.take 63
  vid := (desc.map fun d => descriptorWord d 8).getD 0
  pid := (desc.map fun d => descriptorWord d 10).getD 0
  serial := []
  bus := ((scanDevicePath path).map fun x => lowByte x.1).getD 0
  devaddr := ((scanDevicePath path).map fun x => lowByte x.2).getD 0
  tuner := .unknown

/-! ### The path of a record -/

theorem length_printInt_le (x : Int32) : (printInt 3 x.toInt).length ≤ 11 := by
  have hlow := x.le_toInt
  have hhigh := x.toInt_lt
  have hten {n width : Nat} (hwidth : width ≤ 10) (hn : n < 10000000000) :
      (printNat 10 width n).length ≤ 10 := length_printNat_le (by decide) (by decide) hwidth hn
  unfold printInt
  split
  · have h := @hten x.toInt.natAbs (3 - 1) (by decide) (by omega)
    rw [List.length_cons]
    omega
  · have h := @hten x.toInt.toNat 3 (by decide) (by omega)
    omega

/-- A record has room for its path. -/
theorem devicePath_eq (busnum devnum : Int32) : devicePath busnum devnum =
    busDevices ++ (printInt 3 busnum.toInt ++ '/' :: printInt 3 devnum.toInt) := by
  have hbus := length_printInt_le busnum
  have hdev := length_printInt_le devnum
  rw [devicePath, snprintf, List.append_assoc, List.take_of_length_le]
  simp only [List.length_append, List.length_cons, length_busDevices]
  omega

theorem expect_append (literal s : Text) : expect literal (literal ++ s) = some s := by
  rw [expect, if_pos (List.prefix_append literal s), List.drop_left]

theorem intOfLong_toInt (x : Int32) : intOfLong x.toInt = x := by
  have hlow := x.le_toInt
  have hhigh := x.toInt_lt
  rw [intOfLong, min_eq_right (by omega), max_eq_right (by omega), Int32.ofInt_toInt]

/-- The path of a device file is scanned to the numbers that it was made of. -/
theorem scanDevicePath_devicePath (busnum devnum : Int32) :
    scanDevicePath (devicePath busnum devnum) = some (busnum, devnum) := by
  have hslash : ∀ c ∈ ('/' :: printInt 3 devnum.toInt).head?, isDigitOf 10 c = false := by
    rintro _ ⟨⟩
    decide
  have hbus := @scanInt_printInt 3 _ busnum.toInt hslash
  have hdev := @scanInt_printInt 3 [] devnum.toInt fun _ h => nomatch h
  rw [List.append_nil] at hdev
  rw [scanDevicePath, devicePath_eq, expect_append, Option.bind_eq_bind, Option.bind_some, hbus]
  simp only [Option.bind_eq_bind, Option.bind_some]
  rw [show '/' :: printInt 3 devnum.toInt = ['/'] ++ printInt 3 devnum.toInt from rfl,
    expect_append, Option.bind_some, hdev]
  simp only [Option.bind_some, intOfLong_toInt]
  rfl

/-- The numbers of a record are those of its path. -/
structure Identified (r : Devinfo) (busnum devnum : Int32) : Prop where
  path : r.path = devicePath busnum devnum
  bus : r.bus = lowByte busnum
  devaddr : r.devaddr = lowByte devnum

theorem examine_identified {fs : Sysfs} {name : Text} {r : Devinfo}
    (h : (examine fs name).record = some r) : ∃ busnum devnum, Identified r busnum devnum := by
  have hreceiver {sysdir : Text} {vid pid : UInt16}
      (h : (examineReceiver fs sysdir vid pid).record = some r) :
      ∃ busnum devnum, Identified r busnum devnum := by
    rw [examineReceiver] at h
    split at h
    · cases h
    · split at h
      · cases h
      · cases h
        exact ⟨_, _, rfl, rfl, rfl⟩
  unfold examine at h
  split at h
  · cases h
  split at h
  · cases h
  rw [examineDir] at h
  split at h
  · cases h
  split at h
  · cases h
  split at h
  · exact hreceiver h
  · cases h

/-- `sdr::open` opens the path of the record that `usb::enumerate` counts at the index. -/
theorem openIndex_eq_some {fs : Sysfs} {devs : Fin 8 → Devinfo} {index : Int32} {path : Text}
    (h : openIndex fs devs index = some path) :
    0 ≤ index.toInt ∧ index.toInt < 8 ∧
      ∃ r, (records fs)[index.toInt.toNat]? = some r ∧ r.path = path := by
  obtain ⟨devs', hrun, hfilled⟩ :=
    @enumerate_filled fs (List.ofFn devs) 8 (by rw [List.length_ofFn]; decide)
  have height : (8 : Int32).toInt.toNat = 8 := rfl
  rw [height] at hrun hfilled
  simp only [openIndex, hrun] at h
  split at h
  · cases h
  · rename_i hindex
    obtain ⟨r, hr, hpath⟩ := Option.map_eq_some_iff.mp h
    have hroom := hfilled.room
    have hlt : index.toInt.toNat < ((records fs).take 8).length := by omega
    rw [← List.getElem?_take_of_lt hlt, hfilled.first, List.getElem?_take_of_lt (by omega)] at hr
    exact ⟨by omega, by omega, r, hr, hpath⟩

/-- A device that is opened by index has the path and the numbers of its record. -/
theorem open_identifies {fs : Sysfs} {devs : Fin 8 → Devinfo} {index : Int32} {path : Text}
    (h : openIndex fs devs index = some path) (desc : Option (List UInt8)) :
    ∃ r, (records fs)[index.toInt.toNat]? = some r ∧ (attachInfo path desc).path = r.path ∧
      (attachInfo path desc).bus = r.bus ∧ (attachInfo path desc).devaddr = r.devaddr := by
  obtain ⟨-, -, r, hr, rfl⟩ := openIndex_eq_some h
  obtain ⟨name, -, hname⟩ := List.mem_filterMap.mp (List.mem_of_getElem? hr)
  obtain ⟨busnum, devnum, hid⟩ := examine_identified hname
  have hscan := scanDevicePath_devicePath busnum devnum
  refine ⟨r, hr, ?_, ?_, ?_⟩
  · have hlen : (devicePath busnum devnum).length ≤ 63 := List.length_take_le _ _
    rw [attachInfo, hid.path, List.take_of_length_le hlen]
  · rw [attachInfo, hid.path, hscan, hid.bus]
    rfl
  · rw [attachInfo, hid.path, hscan, hid.devaddr]
    rfl

/-! ### The power cycle of a handle's device -/

/-- The number in an attribute of an entry. -/
def readNumber (fs : Sysfs) (name attr : Text) : Option Int32 :=
  (fs.readInto 16 (snprintf 320 (attrFile name attr))).map atoi

/-- The tests of the loop of `resolve_usb_path` for one entry. -/
def resolves (fs : Sysfs) (bus devnum : Int32) (bufLen : Nat) (name : Text) : Bool :=
  name.head? ≠ some '.' && ':' ∉ name && !("usb".toList.isPrefixOf name) &&
    readNumber fs name "busnum".toList = some bus && readNumber fs name "devnum".toList = some devnum &&
    name.length < bufLen

/-- `resolve_usb_path`, where `link` is what `readlink` gives for the descriptor. -/
def resolveUsbPath (fs : Sysfs) (link : Text) (bufLen : Nat) : Option Text :=
  if link = [] then none
  else do
    let (bus, devnum) ← scanDevicePath (snprintf 256 link)
    let names ← fs.entries
    names.find? (resolves fs bus devnum bufLen)

/-- What a call of `reset_power` meets: sysfs, the files that descriptors are open on, and whether the
opening and the writing of an `authorized` file succeed, at the first and at the second time. -/
structure Power where
  fs : Sysfs
  link : Int32 → Text
  opens : Fin 2 → Bool
  writes : Fin 2 → Bool

/-- An operation on the `authorized` files, with the writes made to them so far. -/
abbrev PowerM := Act Power (List (Text × Char)) SdrggError

def writeAuthorized (path : Text) (turn : Fin 2) (value : Char) : PowerM Unit := do
  let p ← Act.read
  if !p.opens turn then Act.fail .usb
  else if !p.writes turn then Act.fail .usb
  else Act.modify fun done => done ++ [(path, value)]

/-- The power cycle of `reset_power` at a path. -/
def cyclePower (usbPath : Text) : PowerM Unit := do
  let sysfsPath := snprintf 256 (attrFile usbPath "authorized".toList)
  writeAuthorized sysfsPath 0 '0'
  writeAuthorized sysfsPath 1 '1'

/-- `reset::reset_power`, with the descriptor of the device when there is one. -/
def resetPower (fd : Option Int32) (usbPath : Option Text) : PowerM Unit :=
  match usbPath with
  | some usbPath => cyclePower usbPath
  | none =>
    match fd with
    | none => Act.fail .param
    | some fd =>
      if fd < 0 then Act.fail .usb
      else do
        let p ← Act.read
        match resolveUsbPath p.fs (p.link fd) 64 with
        | none => Act.fail .usb
        | some usbPath => cyclePower usbPath

/-- No two devices have the same numbers, and the receivers have the names of ports. -/
structure Bus (nodes : List Node) : Prop where
  distinct : ∀ m ∈ nodes, ∀ n ∈ nodes, ∀ d ∈ m.device, ∀ e ∈ n.device,
    d.busnum = e.busnum → d.devnum = e.devnum → m = n
  ports : ∀ n ∈ nodes, n.record.isSome = true →
    ':' ∉ n.name ∧ ¬"usb".toList <+: n.name ∧ n.name.length < 64

section Resolve

variable {fs : Sysfs} {nodes : List Node} {n : Node} {d : UsbDevice}

/-- A line of a number, which its buffer holds. -/
theorem atoi_decimalLine {value : Nat} (hvalue : value < 10000000) :
    atoi ((decimalLine value).take 15) = Int32.ofNat value := by
  have hlen : (printNat 10 0 value).length ≤ 7 :=
    length_printNat_le (by decide) (by decide) (by decide) hvalue
  have hend : ∀ c ∈ ['\n'].head?, isDigitOf 10 c = false := by
    simp [isDigitOf_newline]
  have hline : (decimalLine value).length ≤ 15 := by
    rw [decimalLine, List.length_append, List.length_singleton]
    omega
  rw [List.take_of_length_le hline, decimalLine, ← printInt_ofNat]
  exact (atoi_printInt hend (by omega) (by omega)).trans Int32.ofInt_eq_ofNat

theorem readNumber_node (h : Shows fs nodes) (hn : n ∈ nodes) :
    readNumber fs n.name "busnum".toList = n.device.map (fun d => Int32.ofNat d.busnum) ∧
      readNumber fs n.name "devnum".toList = n.device.map (fun d => Int32.ofNat d.devnum) := by
  have hname := (h.names n hn).1
  have hread {attr : Text} {value : UsbDevice → Nat} (hattr : attr.length ≤ 20)
      (hvalue : ∀ d ∈ n.device, value d < 10000000)
      (hfile : fs.file (attrFile n.name attr) = n.device.map fun d => decimalLine (value d)) :
      readNumber fs n.name attr = n.device.map fun d => Int32.ofNat (value d) := by
    have hlen : (attrFile n.name attr).length ≤ 319 := by
      simp only [attrFile, List.length_append, List.length_cons, length_sysDevices]
      omega
    have hpath : snprintf 320 (attrFile n.name attr) = attrFile n.name attr :=
      List.take_of_length_le hlen
    rw [readNumber, hpath]
    cases hdevice : n.device with
    | none =>
      rw [hdevice] at hfile
      rw [Sysfs.readInto, hfile]
      rfl
    | some d =>
      rw [hdevice, Option.map_some] at hfile
      rw [readInto_of_content hfile (by simp [decimalLine]), Option.map_some, Option.map_some]
      exact congrArg some (atoi_decimalLine (hvalue d hdevice))
  exact ⟨hread (by decide) (fun d hd => (h.numbers n hn d hd).1) (h.busnum n hn),
    hread (by decide) (fun d hd => (h.numbers n hn d hd).2) (h.devnum n hn)⟩

theorem ofNat_inj_of_small {a b : Nat} (ha : a < 10000000) (hb : b < 10000000)
    (h : Int32.ofNat a = Int32.ofNat b) : a = b := by
  have htoInt := congrArg Int32.toInt h
  rw [Int32.toInt_ofNat_of_lt (by omega), Int32.toInt_ofNat_of_lt (by omega)] at htoInt
  omega

/-- The tests single out the node of a receiver. -/
theorem resolves_iff (h : Shows fs nodes) (hbus : Bus nodes) (hn : n ∈ nodes)
    (hdevice : n.device = some d) (hreceiver : n.record.isSome = true) {m : Node} (hm : m ∈ nodes) :
    resolves fs (Int32.ofNat d.busnum) (Int32.ofNat d.devnum) 64 m.name = true ↔ m = n := by
  obtain ⟨hbusnum, hdevnum⟩ := readNumber_node h hm
  constructor
  · intro hresolves
    simp only [resolves, hbusnum, hdevnum, Bool.and_eq_true, decide_eq_true_eq] at hresolves
    obtain ⟨⟨⟨-, hb⟩, hd⟩, -⟩ := hresolves
    obtain ⟨e, he, hb⟩ := Option.map_eq_some_iff.mp hb
    rw [he] at hd
    obtain ⟨hdSmall, hdSmall'⟩ := h.numbers n hn d hdevice
    obtain ⟨heSmall, heSmall'⟩ := h.numbers m hm e he
    exact hbus.distinct m hm n hn e he d hdevice (ofNat_inj_of_small heSmall hdSmall hb)
      (ofNat_inj_of_small heSmall' hdSmall' (Option.some_inj.mp hd))
  · rintro rfl
    obtain ⟨hcolon, husb, hlen⟩ := hbus.ports m hm hreceiver
    have hdot := (h.names m hm).2 (by rw [hdevice]; rfl)
    have husb : "usb".toList.isPrefixOf m.name = false := by
      rw [← Bool.not_eq_true, List.isPrefixOf_iff_prefix]
      exact husb
    rw [hdevice, Option.map_some] at hbusnum hdevnum
    simp only [resolves, hbusnum, hdevnum, hdot, hcolon, husb, hlen, ne_eq, not_false_iff,
      decide_true, Bool.not_false, Bool.and_self]

/-- A handle of a receiver resolves to its name. -/
theorem resolveUsbPath_node (h : Shows fs nodes) (hbus : Bus nodes) (hn : n ∈ nodes)
    (hdevice : n.device = some d) (hreceiver : n.record.isSome = true) :
    resolveUsbPath fs (devicePath (Int32.ofNat d.busnum) (Int32.ofNat d.devnum)) 64 =
      some n.name := by
  have hlen : (devicePath (Int32.ofNat d.busnum) (Int32.ofNat d.devnum)).length ≤ 63 :=
    List.length_take_le _ _
  have hne : devicePath (Int32.ofNat d.busnum) (Int32.ofNat d.devnum) ≠ [] := by
    intro hnil
    have hscan := scanDevicePath_devicePath (Int32.ofNat d.busnum) (Int32.ofNat d.devnum)
    rw [hnil] at hscan
    cases hscan
  have hfits : snprintf 256 (devicePath (Int32.ofNat d.busnum) (Int32.ofNat d.devnum)) =
      devicePath (Int32.ofNat d.busnum) (Int32.ofNat d.devnum) :=
    List.take_of_length_le (by omega)
  rw [resolveUsbPath, if_neg hne, hfits, scanDevicePath_devicePath, h.entries]
  simp only [Option.bind_eq_bind, Option.bind_some]
  have hself := (resolves_iff h hbus hn hdevice hreceiver hn).mpr rfl
  cases hfind : (nodes.map Node.name).find?
      (resolves fs (Int32.ofNat d.busnum) (Int32.ofNat d.devnum) 64) with
  | none =>
    exact absurd hself (List.find?_eq_none.mp hfind _ (List.mem_map_of_mem hn))
  | some name =>
    obtain ⟨m, hm, rfl⟩ := List.mem_map.mp (List.mem_of_find?_eq_some hfind)
    rw [(resolves_iff h hbus hn hdevice hreceiver hm).mp (List.find?_some hfind)]

/-- What a call at a path has written: nothing, the first digit, or both when it returns no error. -/
theorem cyclePower_writes (p : Power) {usbPath : Text} (hlen : usbPath.length < 64) :
    ∃ x done, cyclePower usbPath p [] = (x, done) ∧
      done <+: [(attrFile usbPath "authorized".toList, '0'),
        (attrFile usbPath "authorized".toList, '1')] ∧
      (x = .ok () ↔ done.length = 2) := by
  have hfits : snprintf 256 (attrFile usbPath "authorized".toList) =
      attrFile usbPath "authorized".toList := by
    have hname : "authorized".toList.length = 10 := rfl
    refine List.take_of_length_le ?_
    simp only [attrFile, List.length_append, List.length_cons, length_sysDevices, hname]
    omega
  have hturn (turn : Fin 2) (value : Char) (done : List (Text × Char)) :
      writeAuthorized (attrFile usbPath "authorized".toList) turn value p done =
        if p.opens turn && p.writes turn then
          (.ok (), done ++ [(attrFile usbPath "authorized".toList, value)])
        else (.error (.error .usb), done) := by
    rw [writeAuthorized, Act.bind_of_ok (Act.read_apply p done)]
    cases p.opens turn <;> cases p.writes turn <;> rfl
  simp only [cyclePower, hfits, Act.bind_apply, hturn]
  cases p.opens 0 && p.writes 0
  · exact ⟨_, _, rfl, List.nil_prefix, by simp⟩
  · cases p.opens 1 && p.writes 1
    · exact ⟨_, _, rfl, ⟨[_], rfl⟩, by simp⟩
    · exact ⟨_, _, rfl, List.prefix_rfl, by simp⟩

/-- A power cycle by a handle that was opened by index writes to the port of the very device that was
enumerated there and to no other, first `0` and then `1`, and returns no error just when it has written
both. -/
theorem power_cycles_opened {p : Power} {nodes : List Node} {devs : Fin 8 → Devinfo}
    {index fd : Int32} {path : Text} (h : Shows p.fs nodes) (hbus : Bus nodes)
    (hopen : openIndex p.fs devs index = some path) (hfd : ¬fd < 0) (hlink : p.link fd = path) :
    ∃ n ∈ nodes, n.record = (nodes.filterMap Node.record)[index.toInt.toNat]? ∧
      ∃ x done, resetPower (some fd) none p [] = (x, done) ∧
        done <+: [(attrFile n.name "authorized".toList, '0'),
          (attrFile n.name "authorized".toList, '1')] ∧
        (x = .ok () ↔ done.length = 2) := by
  obtain ⟨-, -, r, hr, rfl⟩ := openIndex_eq_some hopen
  rw [records_eq h] at hr
  obtain ⟨n, hn, hrecord⟩ := List.mem_filterMap.mp (List.mem_of_getElem? hr)
  refine ⟨n, hn, hrecord.trans hr.symm, ?_⟩
  have hreceiver : n.record.isSome = true := by rw [hrecord]; rfl
  obtain ⟨d, hdevice, hinfo⟩ := Option.bind_eq_some_iff.mp hrecord
  have hpath : r.path = devicePath (Int32.ofNat d.busnum) (Int32.ofNat d.devnum) := by
    obtain ⟨hbusnum, hdevnum⟩ := h.numbers n hn d hdevice
    rw [devicePath_ofNat hbusnum hdevnum]
    split at hinfo
    · cases hinfo
      rfl
    · cases hinfo
  have hresolve := resolveUsbPath_node h hbus hn hdevice hreceiver
  rw [← hpath, ← hlink] at hresolve
  simp only [resetPower, if_neg hfd, Act.bind_of_ok (Act.read_apply p _), hresolve]
  exact cyclePower_writes p (hbus.ports n hn hreceiver).2.2

end Resolve

/-! ### The sample bus -/

def blankDevs : Fin 8 → Devinfo := fun _ => ⟨[], 0, 0, [], 0, 0, .unknown⟩

theorem openIndex_sample :
    openIndex (sysfsOf sampleBus) blankDevs 1 = some "/dev/bus/usb/001/012".toList := by
  decide +kernel

/-- The second receiver of the sample bus. -/
theorem open_identifies_sample : ∃ r, (records (sysfsOf sampleBus))[1]? = some r ∧
    (attachInfo "/dev/bus/usb/001/012".toList none).bus = r.bus ∧ r.bus = 1 ∧
    (attachInfo "/dev/bus/usb/001/012".toList none).devaddr = r.devaddr ∧ r.devaddr = 12 := by
  obtain ⟨r, hr, -, hbus, hdevaddr⟩ := open_identifies openIndex_sample none
  have hbytes : (attachInfo "/dev/bus/usb/001/012".toList none).bus = 1 ∧
      (attachInfo "/dev/bus/usb/001/012".toList none).devaddr = 12 := by
    decide +kernel
  exact ⟨r, hr, hbus, hbus ▸ hbytes.1, hdevaddr, hdevaddr ▸ hbytes.2⟩

theorem sampleBus_bus : Bus sampleBus := by
  constructor <;> decide +kernel

/-- The file of the second receiver, whose port stays off as the second write fails. -/
def samplePower : Power where
  fs := sysfsOf sampleBus
  link _ := "/dev/bus/usb/001/012".toList
  opens _ := true
  writes turn := turn = 0

theorem power_cycles_opened_sample : ∃ n ∈ sampleBus,
    n.record = (sampleBus.filterMap Node.record)[1]? ∧
    ∃ x done, resetPower (some 5) none samplePower [] = (x, done) ∧ x ≠ .ok () ∧
      done <+: [(attrFile n.name "authorized".toList, '0'),
        (attrFile n.name "authorized".toList, '1')] := by
  obtain ⟨n, hn, hrecord, x, done, hrun, hprefix, hok⟩ :=
    @power_cycles_opened samplePower sampleBus blankDevs 1 5 _ sampleBus_shown sampleBus_bus
      openIndex_sample (by decide) rfl
  have hdone : (resetPower (some 5) none samplePower []).2.length = 1 := by
    decide +kernel
  rw [hrun] at hdone
  refine ⟨n, hn, hrecord, x, done, hrun, fun hx => ?_, hprefix⟩
  rw [hok.mp hx] at hdone
  cases hdone

end Sdrgg.Sdr
