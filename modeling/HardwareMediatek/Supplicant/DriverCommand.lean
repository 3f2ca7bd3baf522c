import HardwareMediatek.Supplicant.StaStatistics

/-!
# Driver commands

`wpa_driver_nl80211_driver_cmd` runs a command by its text and leaves a textual reply in the buffer of
the caller. The kernel and the functions that get no pointer into the buffer are given by what they
answer. The buffer is followed in its bytes and in the regions written.
-/

namespace HardwareMediatek.Supplicant

open Foundation

def privCmdSize : ℕ := 512
def cmdSize : ℕ := 4098
def eopnotsupp : ℤ := 95

/-! ## Which command -/

def lowerCase (byte : UInt8) : UInt8 := if 65 ≤ byte ∧ byte ≤ 90 then byte + 32 else byte

/-- How the text of a command is compared. -/
inductive Pattern where
  /-- `os_strncasecmp` with the length of the literal -/
  | startsNoCase (literal : String)
  /-- `os_strncmp` with the length of the literal -/
  | starts (literal : String)
  /-- `os_strcasecmp` -/
  | sameNoCase (literal : String)

def Pattern.fits (cmd : List UInt8) : Pattern → Bool
  | .startsNoCase literal => ((bytesOf literal).map lowerCase).isPrefixOf (cmd.map lowerCase)
  | .starts literal => (bytesOf literal).isPrefixOf cmd
  | .sameNoCase literal => (bytesOf literal).map lowerCase == cmd.map lowerCase

inductive Command where
  | powermode | getStaStatistics | macaddr | country | start | stop | getpower
  | rxfilterAdd | rxfilterRemove | rxfilterStop | rxfilterStart
  | btcoexscanStart | btcoexscanStop | btcoexmode | setWapiKey | wapiMsgSend | hapdGetChannel
  | p2pSetOpps | p2pSetPowerSave | p2pSetSleepOf | p2pSetSleep | p2pSetNoa | p2pSetPs
  | setSuspendMode | updateStaPmkid | setScanMode | transparent
  deriving DecidableEq, Repr

/-- The comparisons in their order. -/
def commandTable : List (Pattern × Command) :=
  [(.startsNoCase "POWERMODE ", .powermode),
    (.startsNoCase "GET_STA_STATISTICS ", .getStaStatistics),
    (.starts "MACADDR", .macaddr),
    (.startsNoCase "COUNTRY", .country),
    (.sameNoCase "start", .start),
    (.sameNoCase "stop", .stop),
    (.startsNoCase "getpower", .getpower),
    (.startsNoCase "rxfilter-add", .rxfilterAdd),
    (.startsNoCase "rxfilter-remove", .rxfilterRemove),
    (.startsNoCase "rxfilter-stop", .rxfilterStop),
    (.startsNoCase "rxfilter-start", .rxfilterStart),
    (.sameNoCase "btcoexscan-start", .btcoexscanStart),
    (.sameNoCase "btcoexscan-stop", .btcoexscanStop),
    (.startsNoCase "btcoexmode", .btcoexmode),
    (.startsNoCase "set-wapi-key", .setWapiKey),
    (.startsNoCase "wapi-msg-send", .wapiMsgSend),
    (.starts "HAPD_GET_CHANNEL ", .hapdGetChannel),
    (.starts "p2p_set_opps ", .p2pSetOpps),
    (.starts "p2p_set_power_save ", .p2pSetPowerSave),
    (.starts "p2p_set_sleep ", .p2pSetSleepOf),
    (.starts "p2p_set_sleep", .p2pSetSleep),
    (.starts "P2P_SET_NOA", .p2pSetNoa),
    (.starts "P2P_SET_PS", .p2pSetPs),
    (.startsNoCase "SETSUSPENDMODE ", .setSuspendMode),
    (.startsNoCase "UPDATE_STA_PMKID", .updateStaPmkid),
    (.startsNoCase "setScanMode ", .setScanMode)]

def commandOf (cmd : List UInt8) : Command :=
  ((commandTable.find? fun entry ↦ entry.1.fits cmd).map Prod.snd).getD .transparent

/-! ## What the driver answers -/

/-- The private command's buffer after the ioctl. `strlen` finds a NUL byte at `limit` at the latest,
in the buffer or behind it. -/
structure PrivateReply where
  bytes : Bytes
  limit : ℕ
  nul : bytes limit = 0
  limit_lt : limit < 2 ^ 31

def PrivateReply.length (reply : PrivateReply) : ℕ := strlenUpTo reply.bytes reply.limit

structure DriverAnswers where
  set_country : ℤ
  set_iface_flags : ℤ
  set_wapi_key : ℤ
  send_msg : ℤ
  testmode : ℤ
  sta_statistics : StaStatistics
  /-- `socket` finds a descriptor -/
  socket : Bool
  /-- the private ioctl fails, or leaves a reply -/
  ioctl : Option PrivateReply
  /-- the messages of a vendor command, with the memory that their vendor data starts -/
  replies : List (Option Bytes)
  /-- `mtk_string_vendor_cmd` -/
  string_cmd : ℤ

structure DriverCall where
  drv : Bool
  ctx : Bool
  /-- `NL80211_IFTYPE_AP` -/
  ap : Bool
  conf : Bool
  own_addr : ℕ → UInt8
  /-- `hwaddr_aton` accepts the text -/
  hwaddr_aton : List UInt8 → Bool
  answers : DriverAnswers
  cmd_src : List UInt8
  buf : Bytes
  buf_len : ℕ
  buf_len_pos : 1 ≤ buf_len

/-- Outside of access point mode the context is a `wpa_supplicant`. -/
def DriverCall.wpa_s (call : DriverCall) : Bool := !call.ap

/-- The local copy of the command. -/
def DriverCall.cmd (call : DriverCall) : List UInt8 := call.cmd_src.take (cmdSize - 1)

/-- The result and the buffer, and whether the driver need not be asked. -/
structure Handled where
  ret : ℤ
  buffer : Buffer
  handled : Bool := true

/-! ## The commands -/

def macaddrText (addr : ℕ → UInt8) : List UInt8 :=
  bytesOf "Macaddr = " ++ hex02 (addr 0) ++ bytesOf ":" ++ hex02 (addr 1) ++ bytesOf ":" ++
    hex02 (addr 2) ++ bytesOf ":" ++ hex02 (addr 3) ++ bytesOf ":" ++ hex02 (addr 4) ++
      bytesOf ":" ++ hex02 (addr 5) ++ bytesOf "\n"

def isSpace (byte : UInt8) : Bool := byte = 32 ∨ (9 ≤ byte ∧ byte ≤ 13)
def isSign (byte : UInt8) : Bool := byte = 43 ∨ byte = 45
def isDigit (byte : UInt8) : Bool := 48 ≤ byte ∧ byte ≤ 57

/-- `strtol` with any base leaves `endp` behind the start exactly when a digit comes first, after blanks
and one sign. -/
def strtolMoves (text : List UInt8) : Bool :=
  match text.dropWhile isSpace with
  | [] => false
  | first :: rest => if isSign first then (rest.head?.any isDigit) else isDigit first

def isSeparator (byte : UInt8) : Bool := byte = 10 ∨ byte = 32

/-- `tokenize_space`: a separator at the very end starts no token. -/
def tokenizeSpace : List UInt8 → ℕ
  | [] => 1
  | [_] => 1
  | byte :: rest => if isSeparator byte then tokenizeSpace rest + 1 else tokenizeSpace rest

/-- What is written to the caller's buffer for a message of a vendor command. -/
structure ReplyInfo where
  buffer : Buffer
  reply_len : ℕ

/-- `reply_buf_size - 1`, where `reply_buf_size` is a `u32`. -/
def replyBufSizePred (buf_len : ℕ) : ℕ := (buf_len % 2 ^ 32 + (2 ^ 32 - 1)) % 2 ^ 32

def vendorCmdReplyInfoHandler (last : ℕ) (reply_info : ReplyInfo) : Option Bytes → ReplyInfo
  | none => reply_info
  | some data =>
      let buffer := (reply_info.buffer.strncpy 0 data last).store last [0]
      { buffer := buffer, reply_len := strlenUpTo buffer.bytes last }

def transparentCommand (call : DriverCall) (buffer : Buffer) : Handled :=
  let answers := call.answers
  let reply_info := answers.replies.foldl
    (vendorCmdReplyInfoHandler (replyBufSizePred call.buf_len)) ⟨buffer, 0⟩
  let ret := asInt reply_info.reply_len
  let handled : Bool := answers.string_cmd ≠ -eopnotsupp
  if handled ∧ answers.string_cmd ≠ 0 ∧ ret = 0 then
    { ret := (bytesOf "FAILED").length
      buffer := reply_info.buffer.strncpy 0 (inMemory (bytesOf "FAILED")) (call.buf_len - 1)
      handled := handled }
  else { ret := ret, buffer := reply_info.buffer, handled := handled }

def getStaStatistics (call : DriverCall) (addr : List UInt8) (buffer : Buffer) : Handled :=
  if ¬ call.hwaddr_aton addr then { ret := -1, buffer := buffer }
  else if call.answers.testmode < 0 then { ret := -1, buffer := buffer }
  else
    let printed := printStaStatistics call.answers.sta_statistics call.buf_len buffer
    { ret := printed.1, buffer := printed.2 }

def macaddrReply (call : DriverCall) (buffer : Buffer) : Handled :=
  let macaddr := if call.wpa_s then call.own_addr else fun _ ↦ 0
  { ret := (macaddrText macaddr).length
    buffer := buffer.snprintf 0 call.buf_len (macaddrText macaddr) }

/-- The query of the power mode is commented out, and `ret` is still what it starts with. -/
def getpowerReply (call : DriverCall) (ret : ℤ) (buffer : Buffer) : Handled :=
  if ret = 0 then
    { ret := (bytesOf "powermode = 0\n").length
      buffer := buffer.snprintf 0 call.buf_len (bytesOf "powermode = 0\n") }
  else { ret := ret, buffer := buffer }

/-- The results of the commands that leave the buffer alone. -/
def silentResult (call : DriverCall) (cmd : List UInt8) : Command → ℤ
  | .country =>
      if cmd.length ≠ (bytesOf "COUNTRY").length + 3 then 0 else call.answers.set_country
  | .start => call.answers.set_iface_flags
  | .stop => call.answers.set_iface_flags
  | .rxfilterAdd => if strtolMoves (cmd.drop 12) then 0 else -1
  | .rxfilterRemove => if strtolMoves (cmd.drop 15) then 0 else -1
  | .rxfilterStop => 0
  | .rxfilterStart => 0
  | .btcoexscanStart => 0
  | .btcoexscanStop => 0
  | .btcoexmode => 0
  | .setWapiKey => call.answers.set_wapi_key
  | .wapiMsgSend => call.answers.send_msg
  | .hapdGetChannel => if call.answers.ioctl.isSome then 0 else -1
  | .p2pSetOpps =>
      if call.wpa_s then
        match (cmd.drop 13).dropWhile fun byte ↦ byte ≠ 32 with
        | [] => 0
        | _ :: addr => if call.hwaddr_aton addr then 0 else -1
      else -1
  | .p2pSetPowerSave => if call.wpa_s then 0 else -1
  | .p2pSetSleepOf => if call.wpa_s ∧ call.hwaddr_aton (cmd.drop 14) then 0 else -1
  | .p2pSetSleep =>
      if call.wpa_s ∧ call.hwaddr_aton (bytesOf "ff:ff:ff:ff:ff:ff \"\"") then 0 else -1
  | .p2pSetNoa =>
      if call.wpa_s ∧ tokenizeSpace cmd = 4 then call.answers.testmode else -1
  | .p2pSetPs =>
      if call.wpa_s ∧ tokenizeSpace cmd = 4 then call.answers.testmode else -1
  | .updateStaPmkid => 0
  | .setScanMode =>
      if ¬ call.answers.socket then -1
      else if privCmdSize ≤ (bytesOf "set_fw_param alwaysscanen ").length + (cmd.drop 12).length then -1
      else if call.answers.ioctl.isSome then 0 else -1
  | _ => -1

/-- The chain of comparisons and what each branch does. -/
def runCommand (call : DriverCall) (cmd : List UInt8) (buffer : Buffer) : Handled :=
  match commandOf cmd with
  | .getStaStatistics =>
      if call.wpa_s then getStaStatistics call (cmd.drop 19) buffer
      else { ret := -1, buffer := buffer }
  | .macaddr => macaddrReply call buffer
  | .getpower => getpowerReply call (-1) buffer
  | .setSuspendMode => { ret := -1, buffer := buffer, handled := false }
  | .transparent => transparentCommand call buffer
  | command => { ret := silentResult call cmd command, buffer := buffer }

/-- A command that is not handled goes to the driver as a private ioctl. -/
def privateCommand (call : DriverCall) (cmd : List UInt8) (buffer : Buffer) : Handled :=
  let cleared := buffer.memset 0 0 call.buf_len
  match call.answers.ioctl with
  | none =>
      { ret := (bytesOf "FAIL\n").length
        buffer := cleared.snprintf 0 call.buf_len (bytesOf "FAIL\n") }
  | some reply =>
      let str_len := asInt reply.length
      let copied := cleared.memcpy 0 reply.bytes (str_len + 1).toNat
      if (Pattern.startsNoCase "WLS_BATCHING").fits cmd then
        let ended := copied.store (call.buf_len - 1) [0]
        { ret := strlenUpTo ended.bytes reply.length, buffer := ended }
      else { ret := strlenUpTo copied.bytes reply.length, buffer := copied }

/-- The call gets past the checks of its pointers. -/
def DriverCall.Accepted (call : DriverCall) : Prop :=
  call.drv = true ∧ call.ctx = true ∧ (call.ap = true ∨ call.conf = true)

instance (call : DriverCall) : Decidable call.Accepted :=
  inferInstanceAs (Decidable (_ ∧ _ ∧ (_ ∨ _)))

def driverCmd (call : DriverCall) : Handled :=
  let buffer : Buffer := ⟨call.buf, []⟩
  if call.Accepted then
    let run := runCommand call call.cmd buffer
    if run.handled then run else privateCommand call call.cmd run.buffer
  else { ret := -1, buffer := buffer }

/-! ## What the reply has to be, and when it is -/

/-- The writes stay in the buffer, and a result that is not negative and comes with a text is where the
text ends. -/
structure Handled.Fits (run : Handled) (buf_len : ℕ) : Prop where
  within : run.buffer.Within buf_len
  nul : run.buffer.writes ≠ [] → 0 ≤ run.ret →
    run.ret < buf_len ∧ run.buffer.bytes run.ret.toNat = 0

/-- The reply of the private ioctl fits with its NUL byte, or the text of its failure does. -/
def DriverCall.PrivateFits (call : DriverCall) : Prop :=
  match call.answers.ioctl with
  | none => 5 < call.buf_len
  | some reply => reply.length < call.buf_len

/-- The last message with vendor data. -/
def DriverAnswers.lastReply (answers : DriverAnswers) : Option Bytes :=
  (answers.replies.filterMap id).getLast?

/-- The messages of the vendor command leave a text in the buffer. -/
def DriverCall.LeavesText (call : DriverCall) : Prop :=
  ∃ data, call.answers.lastReply = some data ∧ call.buf_len ≠ 1 ∧ data 0 ≠ 0

/-- When the reply to a command is what it has to be. -/
def DriverCall.ReplyFits (call : DriverCall) : Prop :=
  match commandOf call.cmd with
  | .getStaStatistics =>
      call.wpa_s = true → call.hwaddr_aton (call.cmd.drop 19) = true → 0 ≤ call.answers.testmode →
        statisticsLength call.answers.sta_statistics < call.buf_len ∨ call.buf_len = 1
  | .macaddr => 28 < call.buf_len
  | .setSuspendMode => call.PrivateFits
  | .transparent =>
      if call.answers.string_cmd = -eopnotsupp then call.PrivateFits
      else call.answers.string_cmd ≠ 0 → ¬ call.LeavesText → 7 < call.buf_len ∨
        (call.buf_len = 7 ∧ (call.answers.lastReply ≠ none ∨ call.buf 6 = 0))
  | _ => True

end HardwareMediatek.Supplicant
