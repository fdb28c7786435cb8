import Kilowatts.WiFiManager.WiFiProvisioningPortal

namespace kilowatts

open FormEncoding TextSearch WiFiProvisioningPortal

/-! Texts are the bytes in front of the zero that ends them. -/

namespace WiFiCredentialsStore

def SSID_BUFFER_SIZE : Nat := 33

def PASSWORD_BUFFER_SIZE : Nat := 65

/-- What the store takes, and whether the flash takes it too. -/
def save (ssid password : Option (List UInt8)) (written : Bool) : Bool :=
  match ssid with
  | none => false
  | some ssid =>
    if ssid = [] ∨ SSID_BUFFER_SIZE ≤ ssid.length then false
    else if password.any (PASSWORD_BUFFER_SIZE ≤ ·.length) then false
    else written

end WiFiCredentialsStore

namespace MqttCredentialsStore

def HOST_BUFFER_SIZE : Nat := 128

def USERNAME_BUFFER_SIZE : Nat := 65

def PASSWORD_BUFFER_SIZE : Nat := 65

structure Credentials where
  host : List UInt8
  port : UInt16
  useTls : Bool
  username : List UInt8
  password : List UInt8
deriving DecidableEq

def save (credentials : Credentials) (written : Bool) : Bool :=
  if credentials.host = [] ∨ HOST_BUFFER_SIZE ≤ credentials.host.length ∨ credentials.port = 0 then false
  else if USERNAME_BUFFER_SIZE ≤ credentials.username.length then false
  else if PASSWORD_BUFFER_SIZE ≤ credentials.password.length then false
  else written

end MqttCredentialsStore

namespace WiFiProvisioningPortal

/-- `atoi`, of too few digits for an overflow. -/
def atoi (text : List UInt8) : Int :=
  let value (digits : List UInt8) : Int :=
    (digits.takeWhile fun byte => 0x30 ≤ byte ∧ byte ≤ 0x39).foldl
      (fun number digit => 10 * number + (digit - 0x30).toNat) 0
  match text.dropWhile ScanFormat.isSpace with
  | [] => 0
  | first :: rest => if first = 0x2D then -value rest else if first = 0x2B then value rest else value (first :: rest)

inductive Page where
  | saved
  | mqttRejected
  | rejected
deriving DecidableEq

/-- What is handed to the two stores, and what they answer. No broker is handed over if its
host is left blank. -/
structure Provisioning where
  ssid : List UInt8
  password : List UInt8
  wifiSaved : Bool
  broker : Option MqttCredentialsStore.Credentials
  mqttSaved : Bool
deriving DecidableEq

def Provisioning.page (provisioning : Provisioning) : Page :=
  if !provisioning.wifiSaved then .rejected else if provisioning.mqttSaved then .saved else .mqttRejected

/-- Central restarts with what it has been given. -/
def Provisioning.restarts (provisioning : Provisioning) : Bool := provisioning.wifiSaved

/-- The bytes that arrive are read into a buffer of 768 with a zero behind them. -/
def handlePostSave (received : List UInt8) (wifiWritten mqttWritten : Bool) : Option Provisioning :=
  if received = [] then none
  else
    let body := (received.take 767).takeWhile (· ≠ 0)
    let selected := (extractFormField body "ssid=".toUTF8.toList
      (CharBuffer.zero : CharBuffer WiFiCredentialsStore.SSID_BUFFER_SIZE)).1
    let ssid := if selected.text = [] then (extractFormField body "ssid_manual=".toUTF8.toList selected).1 else selected
    let password := (extractFormField body "password=".toUTF8.toList
      (CharBuffer.zero : CharBuffer WiFiCredentialsStore.PASSWORD_BUFFER_SIZE)).1
    let wifiSaved := WiFiCredentialsStore.save (some ssid.text) (some password.text) wifiWritten
    let mqttHost := (extractFormField body "mqtt_host=".toUTF8.toList
      (CharBuffer.zero : CharBuffer MqttCredentialsStore.HOST_BUFFER_SIZE)).1
    if mqttHost.text = [] then
      some { ssid := ssid.text, password := password.text, wifiSaved, broker := none, mqttSaved := true }
    else
      let mqttPortText := (extractFormField body "mqtt_port=".toUTF8.toList (CharBuffer.zero : CharBuffer 8)).1
      let mqttUsername := (extractFormField body "mqtt_username=".toUTF8.toList
        (CharBuffer.zero : CharBuffer MqttCredentialsStore.USERNAME_BUFFER_SIZE)).1
      let mqttPassword := (extractFormField body "mqtt_password=".toUTF8.toList
        (CharBuffer.zero : CharBuffer MqttCredentialsStore.PASSWORD_BUFFER_SIZE)).1
      let broker : MqttCredentialsStore.Credentials :=
        { host := mqttHost.text
          port := UInt16.ofInt (atoi mqttPortText.text)
          useTls := (strstr body "mqtt_tls=on".toUTF8.toList).isSome
          username := mqttUsername.text
          password := mqttPassword.text }
      some
        { ssid := ssid.text
          password := password.text
          wifiSaved
          broker := some broker
          mqttSaved := MqttCredentialsStore.save broker mqttWritten }

/-- The inputs of the setup page that the handler reads, with the sizes of its buffers. -/
def formInputs : List (String × Nat) :=
  [("ssid", WiFiCredentialsStore.SSID_BUFFER_SIZE), ("ssid_manual", WiFiCredentialsStore.SSID_BUFFER_SIZE),
    ("password", WiFiCredentialsStore.PASSWORD_BUFFER_SIZE), ("mqtt_host", MqttCredentialsStore.HOST_BUFFER_SIZE),
    ("mqtt_port", 8), ("mqtt_username", MqttCredentialsStore.USERNAME_BUFFER_SIZE),
    ("mqtt_password", MqttCredentialsStore.PASSWORD_BUFFER_SIZE)]

/-- What is entered for a name, or nothing. -/
def entered (fields : List Field) (name : String) : List UInt8 :=
  ((fields.find? fun field => field.1 = name.toUTF8.toList).map Prod.snd).getD []

/-- A form that is read whole, with inputs whose encodings the handler has room for. -/
structure FormFits (unreserved : UnreservedSet) (fields : List Field) : Prop where
  ne_nil : fields ≠ []
  length_le : (formBody unreserved fields).length ≤ 767
  zero_notMem : ∀ input ∈ formInputs, 0 ∉ entered fields input.1
  encodingFits : ∀ input ∈ formInputs, EncodingFits unreserved input.2 (entered fields input.1)

/-- What the form means to hand over. -/
def submittedSsid (fields : List Field) : List UInt8 :=
  if entered fields "ssid" = [] then entered fields "ssid_manual" else entered fields "ssid"

def submittedBroker (unreserved : UnreservedSet) (fields : List Field) : Option MqttCredentialsStore.Credentials :=
  if entered fields "mqtt_host" = [] then none
  else
    some
      { host := entered fields "mqtt_host"
        port := UInt16.ofInt (atoi (entered fields "mqtt_port"))
        useTls := (strstr (formBody unreserved fields) "mqtt_tls=on".toUTF8.toList).isSome
        username := entered fields "mqtt_username"
        password := entered fields "mqtt_password" }

section Entered

variable {unreserved : UnreservedSet} {fields : List Field} {name : String} {size : Nat}

/-- The names of the inputs are sent as they are. -/
theorem fieldKey_of_input (hinput : (name, size) ∈ formInputs) :
    fieldKey unreserved name.toUTF8.toList = name.toUTF8.toList ++ [0x3D] := by
  have hplain : ∀ input ∈ formInputs, ∀ byte ∈ input.1.toUTF8.toList,
      isAlphanumeric byte = true ∨ byte ∈ [0x2D, 0x2E, 0x5F] := by decide +kernel
  rw [fieldKey, encode_of_contains fun byte hbyte => unreserved.alphanumeric byte (hplain _ hinput byte hbyte)]

/-- An empty buffer is given what is entered, and stays empty where nothing is. -/
theorem extractFormField_input (hform : FormFits unreserved fields) (hinput : (name, size) ∈ formInputs)
    {key : List UInt8} (hkey : key = name.toUTF8.toList ++ [0x3D]) {out : CharBuffer size} (hout : out.text = []) :
    (extractFormField (formBody unreserved fields) key out).1.text = entered fields name := by
  have hsizes : ∀ input ∈ formInputs, 0 < input.2 := by decide
  have hsize := hsizes _ hinput
  have hzero := hform.zero_notMem _ hinput
  have hfits := hform.encodingFits _ hinput
  rw [hkey, ← fieldKey_of_input hinput]
  unfold entered at hzero hfits ⊢
  cases hfind : fields.find? fun field => field.1 = name.toUTF8.toList with
  | none =>
    rw [List.find?_eq_none] at hfind
    rw [extractFormField_absent fun field hfield hname => hfind field hfield (decide_eq_true hname)]
    exact hout
  | some field =>
    obtain ⟨hname, before, after, rfl, hbefore⟩ := List.find?_eq_some_iff_append.mp hfind
    rw [hfind] at hzero hfits
    rw [← of_decide_eq_true hname]
    have hother : ∀ earlier ∈ before, earlier.1 ≠ field.1 := by
      intro earlier hearlier hsame
      have hnot := hbefore earlier hearlier
      rw [hsame, hname] at hnot
      cases hnot
    obtain ⟨-, htext⟩ := @extractFormField_formBody unreserved size out field.1 field.2 before after hother hsize
    rw [htext]
    exact (urlDecode_take_encode_iff hzero hsize).mpr hfits

theorem formBody_ne_nil (hfields : fields ≠ []) : formBody unreserved fields ≠ [] := by
  have hfield : ∀ field, encodeField unreserved field ≠ [] := fun field => by simp [encodeField]
  cases fields with
  | nil => exact absurd rfl hfields
  | cons field fields =>
    cases fields with
    | nil => exact hfield field
    | cons next rest => exact List.append_ne_nil_of_left_ne_nil (hfield field) _

theorem zero_text {capacity : Nat} : (CharBuffer.zero : CharBuffer capacity).text = [] := by
  rw [CharBuffer.text, CharBuffer.zero, Vector.toList_replicate]
  cases capacity <;> simp [List.replicate_succ]

/-- A form that fits is handed over as it was entered. -/
theorem handlePostSave_entered (hform : FormFits unreserved fields) (wifiWritten mqttWritten : Bool) :
    handlePostSave (formBody unreserved fields) wifiWritten mqttWritten =
      some
        { ssid := submittedSsid fields
          password := entered fields "password"
          wifiSaved :=
            WiFiCredentialsStore.save (some (submittedSsid fields)) (some (entered fields "password")) wifiWritten
          broker := submittedBroker unreserved fields
          mqttSaved := (submittedBroker unreserved fields).all (MqttCredentialsStore.save · mqttWritten) } := by
  have hbody : ((formBody unreserved fields).take 767).takeWhile (· ≠ 0) = formBody unreserved fields := by
    rw [List.take_of_length_le hform.length_le, takeWhile_ne_of_notMem (zero_notMem_formBody fields)]
  have hread : ∀ (name : String) (size : Nat) (key : List UInt8), (name, size) ∈ formInputs →
      key = name.toUTF8.toList ++ [0x3D] →
        (extractFormField (formBody unreserved fields) key (CharBuffer.zero : CharBuffer size)).1.text =
          entered fields name :=
    fun _ _ _ hinput hkey => extractFormField_input hform hinput hkey zero_text
  have hssid := hread "ssid" WiFiCredentialsStore.SSID_BUFFER_SIZE "ssid=".toUTF8.toList (by decide) (by decide +kernel)
  have hpassword := hread "password" WiFiCredentialsStore.PASSWORD_BUFFER_SIZE "password=".toUTF8.toList (by decide)
    (by decide +kernel)
  have hhost := hread "mqtt_host" MqttCredentialsStore.HOST_BUFFER_SIZE "mqtt_host=".toUTF8.toList (by decide)
    (by decide +kernel)
  have hport := hread "mqtt_port" 8 "mqtt_port=".toUTF8.toList (by decide) (by decide +kernel)
  have husername := hread "mqtt_username" MqttCredentialsStore.USERNAME_BUFFER_SIZE "mqtt_username=".toUTF8.toList
    (by decide) (by decide +kernel)
  have hmqttPassword := hread "mqtt_password" MqttCredentialsStore.PASSWORD_BUFFER_SIZE "mqtt_password=".toUTF8.toList
    (by decide) (by decide +kernel)
  have hselected : ∀ selected : CharBuffer WiFiCredentialsStore.SSID_BUFFER_SIZE,
      selected.text = entered fields "ssid" →
        (if selected.text = [] then
          (extractFormField (formBody unreserved fields) "ssid_manual=".toUTF8.toList selected).1 else selected).text =
          submittedSsid fields := by
    intro selected hselected
    rw [submittedSsid, hselected]
    split
    · rename_i hempty
      exact extractFormField_input hform (by decide) (by decide +kernel) (hselected.trans hempty)
    · exact hselected
  rw [handlePostSave, if_neg (formBody_ne_nil hform.ne_nil)]
  dsimp only
  rw [hbody, hselected _ hssid, hpassword, hhost, hport, husername, hmqttPassword, submittedBroker]
  split
  · rfl
  · rfl

example : FormFits .browser [("ssid".toUTF8.toList, "Home Net".toUTF8.toList)] where
  ne_nil := List.cons_ne_nil _ _
  length_le := by decide +kernel
  zero_notMem := by decide +kernel
  encodingFits := by
    have hshort : ∀ input ∈ formInputs, (encode .browser
        (entered [("ssid".toUTF8.toList, "Home Net".toUTF8.toList)] input.1)).length < input.2 := by decide +kernel
    exact fun input hinput => .inl (hshort input hinput)

/-- Central restarts with every network name that is entered, unless the flash refuses it. -/
theorem restarts_iff (hform : FormFits unreserved fields) {wifiWritten mqttWritten : Bool} {provisioning : Provisioning}
    (hposted : handlePostSave (formBody unreserved fields) wifiWritten mqttWritten = some provisioning) :
    provisioning.restarts = true ↔ submittedSsid fields ≠ [] ∧ wifiWritten = true := by
  have hlength : ∀ name size, (name, size) ∈ formInputs → (entered fields name).length < size :=
    fun _ _ hinput => length_lt_of_encodingFits (hform.encodingFits _ hinput)
  have hpassword := hlength "password" WiFiCredentialsStore.PASSWORD_BUFFER_SIZE (by decide)
  have hssid : (submittedSsid fields).length < WiFiCredentialsStore.SSID_BUFFER_SIZE := by
    rw [submittedSsid]
    split
    · exact hlength "ssid_manual" _ (by decide)
    · exact hlength "ssid" _ (by decide)
  rw [handlePostSave_entered hform] at hposted
  obtain rfl := Option.some.inj hposted
  rw [Provisioning.restarts, WiFiCredentialsStore.save, Option.any_some]
  dsimp only
  rw [decide_eq_false (not_le.mpr hpassword), if_neg Bool.false_ne_true]
  by_cases hempty : submittedSsid fields = []
  · rw [if_pos (.inl hempty)]
    simp [hempty]
  · rw [if_neg (not_or.mpr ⟨hempty, not_le.mpr hssid⟩)]
    simp [hempty]

/-- The search for the TLS box is not anchored: any name that ends in `mqtt_tls` will do, with
any value that begins with `on`. -/
theorem useTls_iff (fields : List Field) :
    (strstr (formBody unreserved fields) "mqtt_tls=on".toUTF8.toList).isSome = true ↔
      ∃ field ∈ fields, "mqtt_tls".toUTF8.toList <:+ encode unreserved field.1 ∧
        "on".toUTF8.toList <+: encode unreserved field.2 := by
  have hkey : "mqtt_tls=on".toUTF8.toList = "mqtt_tls".toUTF8.toList ++ 0x3D :: "on".toUTF8.toList := by decide +kernel
  have hseparator : 0x26 ∉ "mqtt_tls=on".toUTF8.toList := by decide +kernel
  have hne : "mqtt_tls=on".toUTF8.toList ≠ [] := by decide +kernel
  have hfield : ∀ field : Field, "mqtt_tls=on".toUTF8.toList <:+: encodeField unreserved field ↔
      "mqtt_tls".toUTF8.toList <:+ encode unreserved field.1 ∧ "on".toUTF8.toList <+: encode unreserved field.2 := by
    intro field
    rw [hkey, encodeField]
    exact infix_around_iff (separator_notMem_encode (by decide) _) (separator_notMem_encode (by decide) _)
  rw [strstr_isSome_iff]
  induction fields with
  | nil =>
    refine iff_of_false (fun hpart => hne (List.infix_nil.mp hpart)) ?_
    rintro ⟨field, hmem, -⟩
    exact List.not_mem_nil hmem
  | cons field fields ih =>
    cases fields with
    | nil => rw [formBody, hfield, List.exists_mem_cons_iff, or_iff_left (by simp)]
    | cons next rest =>
      rw [formBody_cons_cons, infix_append_separator_iff hseparator hne, hfield, List.exists_mem_cons_iff]
      exact or_congr_right ih

end Entered

end WiFiProvisioningPortal

end kilowatts
