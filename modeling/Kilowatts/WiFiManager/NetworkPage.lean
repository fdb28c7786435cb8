import Kilowatts.Library.Decimal
import Kilowatts.Library.HtmlText
import Kilowatts.Library.JsonDocument
import Kilowatts.WiFiManager.PostedCredentials

namespace kilowatts.NetworkPage

open Html
open Json (ascii)
open Decimal (digitsOf)

/-- `wifi_ap_record_t`, as far as the portal reads it. -/
structure NearbyRecord where
  ssid : CharBuffer 33
  rssi : Int8
deriving DecidableEq

structure DiscoveredNetwork where
  ssid : List UInt8
  rssi : Int8
deriving DecidableEq

def MAX_DISCOVERED_NETWORKS : Nat := 16

/-- A network that is listed already keeps the strongest signal. `none` is a network that is not. -/
def strengthen (ssid : List UInt8) (rssi : Int8) : List DiscoveredNetwork → Option (List DiscoveredNetwork)
  | [] => none
  | network :: networks =>
    if network.ssid = ssid then some ((if rssi > network.rssi then { network with rssi } else network) :: networks)
    else (strengthen ssid rssi networks).map (network :: ·)

/-- The loop over the records. -/
def listRecord (networks : List DiscoveredNetwork) (record : NearbyRecord) : List DiscoveredNetwork :=
  if record.ssid.text = [] then networks
  else
    match strengthen record.ssid.text record.rssi networks with
    | some strengthened => strengthened
    | none =>
      if networks.length < MAX_DISCOVERED_NETWORKS then networks ++ [⟨record.ssid.text, record.rssi⟩] else networks

/-- `std::sort` may leave networks of one strength in another order. `none` is a scan that could not be
started. -/
def scanNearbyNetworks (records : Option (List NearbyRecord)) : List DiscoveredNetwork :=
  ((records.getD []).foldl listRecord []).mergeSort fun network other => other.rssi ≤ network.rssi

def entity (byte : UInt8) : Option (List UInt8) :=
  if byte = 0x26 then some (ascii "&amp;")
  else if byte = 0x3C then some (ascii "&lt;")
  else if byte = 0x3E then some (ascii "&gt;")
  else if byte = 0x22 then some (ascii "&quot;")
  else if byte = 0x27 then some (ascii "&#39;")
  else none

/-- Texts are the bytes in front of the zero that ends them. -/
def appendHtmlEscaped (outSize : Nat) : List UInt8 → List UInt8 → List UInt8
  | out, [] => out
  | out, byte :: text =>
    if out.length + 6 < outSize then appendHtmlEscaped outSize (out ++ (entity byte).getD [byte]) text else out

/-- Adjacent string literals are one text. -/
def literals (texts : List String) : List UInt8 := texts.flatMap fun text => text.toUTF8.toList

def PAGE_TOP : List UInt8 := literals [
  "<!doctype html><html><head><meta name=viewport content='width=device-width,initial-scale=1'>",
  "<title>Kilowatts Setup</title></head><body style='font-family:sans-serif;max-width:420px;margin:2em auto;padding:0 1em'>",
  "<h2>Kilowatts Central - Wi-Fi Setup</h2>"]

def FORM_HEAD : List UInt8 := literals [
  "<p>Select the household/installation Wi-Fi this Central Node should join.</p>",
  "<form method='POST' action='/save'>",
  "<label>Network name (SSID)</label><br>"]

def FORM_SSID_MANUAL_ONLY : List UInt8 := literals [
  "<input name='ssid' maxlength='32' required placeholder='Network name (SSID)' ",
  "style='width:100%;padding:.5em;margin:.3em 0 1em'><br>"]

def FORM_TAIL : List UInt8 := literals [
  "<label>Password</label><br>",
  "<input name='password' type='password' maxlength='64' style='width:100%;padding:.5em;margin:.3em 0 1em'><br>",
  "<h3>MQTT broker (required)</h3>",
  "<p>Enter the MQTT broker used by this installation. These values are ",
  "stored on the Central Node and loaded after restart.</p>",
  "<label>Broker host or IP (required)</label><br>",
  "<input name='mqtt_host' maxlength='127' style='width:100%;padding:.5em;margin:.3em 0 1em'><br>",
  "<label>Broker port</label><br>",
  "<input name='mqtt_port' maxlength='5' placeholder='1883' style='width:100%;padding:.5em;margin:.3em 0 1em'><br>",
  "<label><input name='mqtt_tls' type='checkbox'> Use TLS</label><br><br>",
  "<label>Broker username (optional)</label><br>",
  "<input name='mqtt_username' maxlength='64' style='width:100%;padding:.5em;margin:.3em 0 1em'><br>",
  "<label>Broker password (optional)</label><br>",
  "<input name='mqtt_password' type='password' maxlength='64' style='width:100%;padding:.5em;margin:.3em 0 1em'><br>",
  "<button type='submit' style='padding:.7em 1.5em'>Save and Connect</button>",
  "</form></body></html>"]

def SELECT_HEAD : List UInt8 := literals [
  "<select name='ssid' style='width:100%;padding:.5em;margin:.3em 0 1em'>"]

def SELECT_TAIL : List UInt8 := literals [
  "<option value=''>Other (type below)</option></select>",
  "<input name='ssid_manual' maxlength='32' placeholder='Only if &quot;Other&quot; selected above' ",
  "style='width:100%;padding:.5em;margin:.3em 0 1em'><br>"]

/-- `%d`. -/
def signedText (number : Int) : List UInt8 := (if number < 0 then [0x2D] else []) ++ digitsOf number.natAbs

/-- `snprintf` cuts what the buffer cannot hold. -/
def optionHtml (network : DiscoveredNetwork) : List UInt8 :=
  let escapedSsid := appendHtmlEscaped 192 [] network.ssid
  (ascii "<option value='" ++ escapedSsid ++ ascii "'>" ++ escapedSsid ++ ascii " (" ++
    signedText network.rssi.toInt ++ ascii " dBm)</option>").take 511

/-- The chunks of the page, one behind the other. -/
def handleGetRoot (networks : List DiscoveredNetwork) : List UInt8 :=
  PAGE_TOP ++ FORM_HEAD ++
    (if networks = [] then FORM_SSID_MANUAL_ONLY else SELECT_HEAD ++ networks.flatMap optionHtml ++ SELECT_TAIL) ++
    FORM_TAIL

section Listing

variable {ssid : List UInt8} {rssi : Int8} {networks after : List DiscoveredNetwork} {processed : List NearbyRecord}
  {record : NearbyRecord}

theorem ssids_strengthen (hstrengthened : strengthen ssid rssi networks = some after) :
    after.map DiscoveredNetwork.ssid = networks.map DiscoveredNetwork.ssid := by
  induction networks generalizing after with
  | nil => cases hstrengthened
  | cons network networks ih =>
    rw [strengthen] at hstrengthened
    by_cases hssid : network.ssid = ssid
    · rw [if_pos hssid, Option.some.injEq] at hstrengthened
      subst hstrengthened
      rw [List.map_cons, List.map_cons]
      split <;> rfl
    · rw [if_neg hssid] at hstrengthened
      obtain ⟨rest, hrest, rfl⟩ := Option.map_eq_some_iff.mp hstrengthened
      rw [List.map_cons, List.map_cons, ih hrest]

theorem strengthen_eq_none_iff : strengthen ssid rssi networks = none ↔ ∀ network ∈ networks, network.ssid ≠ ssid := by
  induction networks with
  | nil => simp [strengthen]
  | cons network networks ih =>
    rw [strengthen, List.forall_mem_cons]
    by_cases hssid : network.ssid = ssid
    · rw [if_pos hssid]
      exact iff_of_false (Option.some_ne_none _) fun hnone => hnone.1 hssid
    · rw [if_neg hssid, Option.map_eq_none_iff, ih]
      exact (and_iff_right hssid).symm

/-- A network keeps its signal or gets a stronger one of its own. -/
theorem mem_strengthen (hstrengthened : strengthen ssid rssi networks = some after)
    (hnodup : (networks.map DiscoveredNetwork.ssid).Nodup) {network : DiscoveredNetwork} (hmem : network ∈ after) :
    ∃ before ∈ networks, before.ssid = network.ssid ∧
      network.rssi = if network.ssid = ssid ∧ before.rssi < rssi then rssi else before.rssi := by
  induction networks generalizing after with
  | nil => cases hstrengthened
  | cons head networks ih =>
    rw [List.map_cons, List.nodup_cons] at hnodup
    rw [strengthen] at hstrengthened
    by_cases hssid : head.ssid = ssid
    · rw [if_pos hssid, Option.some.injEq] at hstrengthened
      subst hstrengthened
      obtain rfl | hrest := List.mem_cons.mp hmem
      · refine ⟨head, List.mem_cons_self, ?_⟩
        by_cases hstronger : head.rssi < rssi
        · simp [hstronger, hssid]
        · simp [hstronger]
      · have hother : network.ssid ≠ ssid := by
          rintro rfl
          exact hnodup.1 (hssid ▸ List.mem_map_of_mem hrest)
        exact ⟨network, List.mem_cons_of_mem _ hrest, rfl, (if_neg fun hboth => hother hboth.1).symm⟩
    · rw [if_neg hssid] at hstrengthened
      obtain ⟨rest, hrest, rfl⟩ := Option.map_eq_some_iff.mp hstrengthened
      obtain rfl | htail := List.mem_cons.mp hmem
      · exact ⟨network, List.mem_cons_self, rfl, (if_neg fun hboth => hssid hboth.1).symm⟩
      · obtain ⟨before, hbefore, hsame⟩ := ih hrest hnodup.2 htail
        exact ⟨before, List.mem_cons_of_mem _ hbefore, hsame⟩

/-- What the list tells about the records that are processed. -/
structure Lists (processed : List NearbyRecord) (networks : List DiscoveredNetwork) : Prop where
  nodup : (networks.map DiscoveredNetwork.ssid).Nodup
  length_le : networks.length ≤ MAX_DISCOVERED_NETWORKS
  ne_nil : ∀ network ∈ networks, network.ssid ≠ []
  heard : ∀ network ∈ networks, ∃ record ∈ processed, record.ssid.text = network.ssid ∧ record.rssi = network.rssi
  strongest : ∀ network ∈ networks, ∀ record ∈ processed, record.ssid.text = network.ssid → record.rssi ≤ network.rssi
  complete : ∀ record ∈ processed, record.ssid.text ≠ [] →
    (∃ network ∈ networks, network.ssid = record.ssid.text) ∨ networks.length = MAX_DISCOVERED_NETWORKS

theorem lists_nil : Lists [] [] where
  nodup := List.nodup_nil
  length_le := Nat.zero_le _
  ne_nil _ hmem := absurd hmem List.not_mem_nil
  heard _ hmem := absurd hmem List.not_mem_nil
  strongest _ hmem := absurd hmem List.not_mem_nil
  complete _ hmem := absurd hmem List.not_mem_nil

/-- A record of a hidden network, or one that there is no room for. -/
theorem Lists.skip (hlists : Lists processed networks)
    (hskipped : record.ssid.text = [] ∨
      (∀ network ∈ networks, network.ssid ≠ record.ssid.text) ∧ networks.length = MAX_DISCOVERED_NETWORKS) :
    Lists (processed ++ [record]) networks where
  nodup := hlists.nodup
  length_le := hlists.length_le
  ne_nil := hlists.ne_nil
  heard network hmem := by
    obtain ⟨earlier, hearlier, hsame⟩ := hlists.heard network hmem
    exact ⟨earlier, List.mem_append_left _ hearlier, hsame⟩
  strongest network hmem other hother hssid := by
    obtain hold | hnew := List.mem_append.mp hother
    · exact hlists.strongest network hmem other hold hssid
    · obtain rfl := List.mem_singleton.mp hnew
      obtain hhidden | ⟨hunlisted, -⟩ := hskipped
      · exact absurd (hssid.symm.trans hhidden) (hlists.ne_nil network hmem)
      · exact absurd hssid.symm (hunlisted network hmem)
  complete other hother hshown := by
    obtain hold | hnew := List.mem_append.mp hother
    · exact hlists.complete other hold hshown
    · obtain rfl := List.mem_singleton.mp hnew
      exact .inr (hskipped.resolve_left hshown).2

theorem Lists.strengthen (hlists : Lists processed networks) (hshown : record.ssid.text ≠ [])
    (hstrengthened : strengthen record.ssid.text record.rssi networks = some after) :
    Lists (processed ++ [record]) after := by
  have hssids := ssids_strengthen hstrengthened
  have hlength : after.length = networks.length := by
    rw [← List.length_map DiscoveredNetwork.ssid, hssids, List.length_map]
  have hkeeps : ∀ network ∈ after, ∃ before ∈ networks, before.ssid = network.ssid ∧
      before.rssi ≤ network.rssi ∧
      (network.rssi = before.rssi ∨ network.ssid = record.ssid.text ∧ network.rssi = record.rssi) ∧
      (network.ssid = record.ssid.text → record.rssi ≤ network.rssi) := by
    intro network hmem
    obtain ⟨before, hbefore, hssid, hrssi⟩ := mem_strengthen hstrengthened hlists.nodup hmem
    refine ⟨before, hbefore, hssid, ?_⟩
    by_cases hstronger : network.ssid = record.ssid.text ∧ before.rssi < record.rssi
    · rw [if_pos hstronger] at hrssi
      rw [hrssi]
      exact ⟨Int8.le_of_lt hstronger.2, .inr ⟨hstronger.1, rfl⟩, fun _ => Int8.le_refl _⟩
    · rw [if_neg hstronger] at hrssi
      rw [hrssi]
      exact ⟨Int8.le_refl _, .inl rfl, fun hlisted => Int8.not_lt.mp fun hless => hstronger ⟨hlisted, hless⟩⟩
  constructor
  · exact hssids ▸ hlists.nodup
  · exact hlength ▸ hlists.length_le
  · intro network hmem
    obtain ⟨before, hbefore, hssid, -⟩ := hkeeps network hmem
    exact hssid ▸ hlists.ne_nil before hbefore
  · intro network hmem
    obtain ⟨before, hbefore, hssid, -, hrssi | ⟨hlisted, hrssi⟩, -⟩ := hkeeps network hmem
    · obtain ⟨earlier, hearlier, htext, hsame⟩ := hlists.heard before hbefore
      exact ⟨earlier, List.mem_append_left _ hearlier, htext.trans hssid, hsame.trans hrssi.symm⟩
    · exact ⟨record, List.mem_append_right _ (List.mem_singleton_self _), hlisted.symm, hrssi.symm⟩
  · intro network hmem other hother htext
    obtain ⟨before, hbefore, hssid, hle, -, hnew⟩ := hkeeps network hmem
    obtain hold | hlast := List.mem_append.mp hother
    · exact Int8.le_trans (hlists.strongest before hbefore other hold (htext.trans hssid.symm)) hle
    · obtain rfl := List.mem_singleton.mp hlast
      exact hnew htext.symm
  · intro other hother hvisible
    rw [hlength]
    have hlisted : ∀ ssid, ssid ∈ networks.map DiscoveredNetwork.ssid → ∃ network ∈ after, network.ssid = ssid :=
      fun ssid hmem => List.mem_map.mp (hssids ▸ hmem)
    obtain hold | hlast := List.mem_append.mp hother
    · exact (hlists.complete other hold hvisible).imp_left fun hfound => hlisted _ (List.mem_map.mpr hfound)
    · obtain rfl := List.mem_singleton.mp hlast
      refine .inl (hlisted _ ?_)
      by_contra habsent
      have hnone : NetworkPage.strengthen other.ssid.text other.rssi networks = none :=
        strengthen_eq_none_iff.mpr fun network hmem hssid => habsent (List.mem_map.mpr ⟨network, hmem, hssid⟩)
      rw [hnone] at hstrengthened
      cases hstrengthened

theorem Lists.append (hlists : Lists processed networks) (hshown : record.ssid.text ≠ [])
    (hunlisted : ∀ network ∈ networks, network.ssid ≠ record.ssid.text)
    (hroom : networks.length < MAX_DISCOVERED_NETWORKS) :
    Lists (processed ++ [record]) (networks ++ [⟨record.ssid.text, record.rssi⟩]) := by
  -- no record of this network is processed: there was room for it
  have hfirst : ∀ other ∈ processed, other.ssid.text ≠ record.ssid.text := by
    intro other hother hsame
    obtain ⟨network, hmem, hssid⟩ | hfull := hlists.complete other hother (hsame ▸ hshown)
    · exact hunlisted network hmem (hssid.trans hsame)
    · omega
  constructor
  · rw [List.map_append, List.map_singleton]
    refine (List.perm_append_singleton _ _).nodup_iff.mpr (List.nodup_cons.mpr ⟨fun hmem => ?_, hlists.nodup⟩)
    obtain ⟨network, hnetwork, hssid⟩ := List.mem_map.mp hmem
    exact hunlisted network hnetwork hssid
  · rw [List.length_append, List.length_singleton]
    exact hroom
  · intro network hmem
    obtain hold | hnew := List.mem_append.mp hmem
    · exact hlists.ne_nil network hold
    · obtain rfl := List.mem_singleton.mp hnew
      exact hshown
  · intro network hmem
    obtain hold | hnew := List.mem_append.mp hmem
    · obtain ⟨earlier, hearlier, hsame⟩ := hlists.heard network hold
      exact ⟨earlier, List.mem_append_left _ hearlier, hsame⟩
    · obtain rfl := List.mem_singleton.mp hnew
      exact ⟨record, List.mem_append_right _ (List.mem_singleton_self _), rfl, rfl⟩
  · intro network hmem other hother htext
    obtain hold | hnew := List.mem_append.mp hmem
    · obtain hearlier | hlast := List.mem_append.mp hother
      · exact hlists.strongest network hold other hearlier htext
      · obtain rfl := List.mem_singleton.mp hlast
        exact absurd htext.symm (hunlisted network hold)
    · obtain rfl := List.mem_singleton.mp hnew
      obtain hearlier | hlast := List.mem_append.mp hother
      · exact absurd htext (hfirst other hearlier)
      · obtain rfl := List.mem_singleton.mp hlast
        exact Int8.le_refl _
  · intro other hother hvisible
    obtain hearlier | hlast := List.mem_append.mp hother
    · obtain ⟨network, hmem, hssid⟩ | hfull := hlists.complete other hearlier hvisible
      · exact .inl ⟨network, List.mem_append_left _ hmem, hssid⟩
      · omega
    · obtain rfl := List.mem_singleton.mp hlast
      exact .inl ⟨_, List.mem_append_right _ (List.mem_singleton_self _), rfl⟩

theorem Lists.listRecord (hlists : Lists processed networks) (record : NearbyRecord) :
    Lists (processed ++ [record]) (listRecord networks record) := by
  rw [NetworkPage.listRecord]
  by_cases hhidden : record.ssid.text = []
  · rw [if_pos hhidden]
    exact hlists.skip (.inl hhidden)
  · rw [if_neg hhidden]
    cases hstrengthened : NetworkPage.strengthen record.ssid.text record.rssi networks with
    | some after => exact hlists.strengthen hhidden hstrengthened
    | none =>
      have hunlisted := strengthen_eq_none_iff.mp hstrengthened
      dsimp only
      split_ifs with hroom
      · exact hlists.append hhidden hunlisted hroom
      · exact hlists.skip (.inr ⟨hunlisted, Nat.le_antisymm hlists.length_le (Nat.not_lt.mp hroom)⟩)

theorem lists_foldl (records : List NearbyRecord) : Lists records (records.foldl listRecord []) := by
  induction records using List.reverseRecOn with
  | nil => exact lists_nil
  | append_singleton records record ih =>
    rw [List.foldl_append]
    exact ih.listRecord record

/-- The networks that a scan may leave. The driver ends every name with a zero, and `std::sort` may leave
networks of one strength in any order. -/
structure IsScan (records : List NearbyRecord) (networks : List DiscoveredNetwork) : Prop where
  terminated : ∀ record ∈ records, record.ssid.text.length ≤ 32
  perm : networks.Perm (records.foldl listRecord [])
  sorted : networks.Pairwise fun network other => other.rssi ≤ network.rssi

theorem isScan_scanNearbyNetworks {records : List NearbyRecord}
    (hterminated : ∀ record ∈ records, record.ssid.text.length ≤ 32) :
    IsScan records (scanNearbyNetworks (some records)) where
  terminated := hterminated
  perm := List.mergeSort_perm _ _
  sorted := by
    have hsorted := @List.pairwise_mergeSort DiscoveredNetwork (fun network other => other.rssi ≤ network.rssi)
      (fun _ _ _ hfirst hsecond => decide_eq_true (Int8.le_trans (of_decide_eq_true hsecond) (of_decide_eq_true hfirst)))
      (fun network other => by simpa using Int8.le_total other.rssi network.rssi)
      (records.foldl listRecord [])
    exact hsorted.imp of_decide_eq_true

theorem Lists.perm (hlists : Lists processed networks) (hperm : after.Perm networks) : Lists processed after where
  nodup := (hperm.map _).nodup_iff.mpr hlists.nodup
  length_le := hperm.length_eq ▸ hlists.length_le
  ne_nil network hmem := hlists.ne_nil network (hperm.mem_iff.mp hmem)
  heard network hmem := hlists.heard network (hperm.mem_iff.mp hmem)
  strongest network hmem := hlists.strongest network (hperm.mem_iff.mp hmem)
  complete record hmem hshown := by
    rw [hperm.length_eq]
    refine (hlists.complete record hmem hshown).imp_left ?_
    rintro ⟨network, hnetwork, hssid⟩
    exact ⟨network, hperm.mem_iff.mpr hnetwork, hssid⟩

theorem IsScan.lists {records : List NearbyRecord} (hscan : IsScan records networks) : Lists records networks :=
  (lists_foldl records).perm hscan.perm

/-- The list holds each network once, with its strongest signal, and the strongest networks first. It leaves
out hidden ones, and others only if it is full. Needs that the driver ends each name with a zero. -/
theorem scan_lists_strongest {records : List NearbyRecord} (hscan : IsScan records networks) :
    (networks.map DiscoveredNetwork.ssid).Nodup ∧
      (networks.Pairwise fun network other => other.rssi ≤ network.rssi) ∧
      (∀ network ∈ networks, network.ssid ≠ [] ∧
        (∃ record ∈ records, record.ssid.text = network.ssid ∧ record.rssi = network.rssi) ∧
        ∀ record ∈ records, record.ssid.text = network.ssid → record.rssi ≤ network.rssi) ∧
      networks.length ≤ MAX_DISCOVERED_NETWORKS ∧
      ∀ record ∈ records, record.ssid.text ≠ [] →
        (∃ network ∈ networks, network.ssid = record.ssid.text) ∨ networks.length = MAX_DISCOVERED_NETWORKS := by
  have hlists := hscan.lists
  refine ⟨hlists.nodup, hscan.sorted, fun network hnetwork => ?_, hlists.length_le, hlists.complete⟩
  exact ⟨hlists.ne_nil network hnetwork, hlists.heard network hnetwork, hlists.strongest network hnetwork⟩

def nearbyRecord (ssid : String) (rssi : Int8) : NearbyRecord := ⟨CharBuffer.zero.print (ascii ssid), rssi⟩

/-- Two access points of one network, a hidden one, and one whose name looks like a tag. -/
def cafeRecords : List NearbyRecord :=
  [nearbyRecord "Home Net" (-70), nearbyRecord "" (-30), nearbyRecord "<'Cafe'>" (-60), nearbyRecord "Home Net" (-55)]

def cafeNetworks : List DiscoveredNetwork := [⟨ascii "Home Net", -55⟩, ⟨ascii "<'Cafe'>", -60⟩]

theorem isScan_cafe : IsScan cafeRecords cafeNetworks where
  terminated := by decide +kernel
  perm := by
    have hlisted : cafeRecords.foldl listRecord [] = cafeNetworks := by decide +kernel
    exact hlisted ▸ List.Perm.refl _
  sorted := by decide +kernel

theorem scan_lists_strongest_cafe :
    (cafeNetworks.map DiscoveredNetwork.ssid).Nodup ∧ ∀ record ∈ cafeRecords, record.ssid.text = ascii "Home Net" →
      record.rssi ≤ -55 := by
  obtain ⟨hnodup, -, hstrongest, -⟩ := scan_lists_strongest isScan_cafe
  exact ⟨hnodup, (hstrongest ⟨ascii "Home Net", -55⟩ List.mem_cons_self).2.2⟩

end Listing

section Escaping

variable {text out : List UInt8} {outSize : Nat}

theorem entity_getD (byte : UInt8) : (entity byte).getD [byte] = escapeByte byte := by
  unfold entity
  split_ifs with hampersand hless hgreater hquote happostrophe
  · exact hampersand ▸ rfl
  · exact hless ▸ rfl
  · exact hgreater ▸ rfl
  · exact hquote ▸ rfl
  · exact happostrophe ▸ rfl
  · simp [escapeByte, reference, references, Ne.symm hampersand, Ne.symm hless, Ne.symm hgreater, Ne.symm hquote,
      Ne.symm happostrophe]

theorem appendHtmlEscaped_cons (byte : UInt8) :
    appendHtmlEscaped outSize out (byte :: text) =
      if out.length + 6 < outSize then appendHtmlEscaped outSize (out ++ escapeByte byte) text else out := by
  rw [appendHtmlEscaped, entity_getD]

/-- Whole bytes are left out at the end. -/
theorem appendHtmlEscaped_eq (text out : List UInt8) :
    ∃ kept, kept <+: text ∧ appendHtmlEscaped outSize out text = out ++ escape kept := by
  induction text generalizing out with
  | nil => exact ⟨[], List.prefix_rfl, (List.append_nil out).symm⟩
  | cons byte text ih =>
    rw [appendHtmlEscaped_cons]
    split_ifs
    · obtain ⟨kept, hkept, happended⟩ := ih (out ++ escapeByte byte)
      refine ⟨byte :: kept, List.cons_prefix_cons.mpr ⟨rfl, hkept⟩, ?_⟩
      rw [happended, List.append_assoc]
      rfl
    · exact ⟨[], List.nil_prefix, (List.append_nil out).symm⟩

theorem appendHtmlEscaped_of_fits (hfits : out.length + (escape text.dropLast).length + 6 < outSize) :
    appendHtmlEscaped outSize out text = out ++ escape text := by
  induction text generalizing out with
  | nil => exact (List.append_nil out).symm
  | cons byte text ih =>
    rw [appendHtmlEscaped_cons, if_pos (by omega)]
    cases text with
    | nil => rw [appendHtmlEscaped, escape, List.flatMap_singleton]
    | cons second rest =>
      rw [List.dropLast_cons_cons, escape, List.flatMap_cons, List.length_append] at hfits
      rw [ih, List.append_assoc]
      · rfl
      · rw [List.length_append, escape]
        omega

theorem length_escapeByte_le (byte : UInt8) :
    (escapeByte byte).length ≤ 6 ∧ (byte ≠ 0x22 → (escapeByte byte).length ≤ 5) := by
  obtain ⟨entry, hentry, rfl, hescape⟩ | ⟨-, hescape⟩ := escapeByte_cases byte
  · rw [hescape]
    revert entry
    decide
  · rw [hescape, List.length_singleton]
    exact ⟨by decide, fun _ => by decide⟩

theorem length_escape_le (text : List UInt8) :
    (escape text).length ≤ 6 * text.length ∧ ((∃ byte ∈ text, byte ≠ 0x22) → (escape text).length < 6 * text.length) := by
  induction text with
  | nil => simp [escape]
  | cons byte text ih =>
    have hbyte := length_escapeByte_le byte
    have hlength : (escape (byte :: text)).length = (escapeByte byte).length + (escape text).length := by
      rw [escape, List.flatMap_cons, List.length_append, escape]
    rw [hlength, List.length_cons]
    refine ⟨by omega, ?_⟩
    rintro ⟨other, hother, hplain⟩
    obtain rfl | htext := List.mem_cons.mp hother
    · have hshort := hbyte.2 hplain
      omega
    · have hshort := ih.2 ⟨other, htext, hplain⟩
      omega

/-- The value of an option as it is read. -/
def shownSsid (ssid : List UInt8) : List UInt8 := decode (appendHtmlEscaped 192 [] ssid)

theorem shownSsid_prefix (ssid : List UInt8) : shownSsid ssid <+: ssid := by
  obtain ⟨kept, hkept, happended⟩ := @appendHtmlEscaped_eq 192 ssid []
  rw [shownSsid, happended, List.nil_append, decode_escape]
  exact hkept

/-- 31 quotation marks leave no room for another byte. -/
theorem shownSsid_eq_iff {ssid : List UInt8} (hlength : ssid.length ≤ 32) :
    shownSsid ssid = ssid ↔ ∀ last, ssid ≠ List.replicate 31 0x22 ++ [last] := by
  constructor
  · rintro hshown last rfl
    have hcut : shownSsid (List.replicate 31 0x22 ++ [last]) = List.replicate 31 0x22 := rfl
    have hlengths := congrArg List.length (hcut.symm.trans hshown)
    simp at hlengths
  · intro hother
    have hfits : (escape ssid.dropLast).length ≤ 185 := by
      have hbound := length_escape_le ssid.dropLast
      have hshort : ssid.dropLast.length ≤ 31 := by
        rw [List.length_dropLast]
        omega
      by_cases hquotes : ∃ byte ∈ ssid.dropLast, byte ≠ 0x22
      · have hless := hbound.2 hquotes
        omega
      · have hall : ∀ byte ∈ ssid.dropLast, byte = 0x22 := by simpa using hquotes
        have hother31 : ssid.dropLast.length ≠ 31 := by
          intro hfull
          have hsplit : ssid ≠ [] := by
            rintro rfl
            simp at hfull
          refine hother (ssid.getLast hsplit) ?_
          rw [← hfull, ← List.eq_replicate_of_mem hall, List.dropLast_append_getLast]
        omega
    rw [shownSsid, appendHtmlEscaped_of_fits (by rw [List.length_nil]; omega), List.nil_append, decode_escape]

end Escaping

section Page

variable {network : DiscoveredNetwork} {networks : List DiscoveredNetwork}

def strengthText (rssi : Int8) : List UInt8 := ascii " (" ++ signedText rssi.toInt ++ ascii " dBm)"

/-- What a reader makes of a page. -/
def readPage (page : List UInt8) : List Token := (Reader.start.read page).finished

/-- An option as it is meant. -/
def optionTokens (network : DiscoveredNetwork) : List Token :=
  [.tag (ascii "option") [(ascii "value", shownSsid network.ssid)],
    .text (shownSsid network.ssid ++ strengthText network.rssi), .tag (ascii "/option") []]

theorem plain_of_isDigit {byte : UInt8} (hdigit : Json.isDigit byte = true) : isMarkup byte = false ∧ byte ≠ 0x26 := by
  refine ⟨?_, ?_⟩
  · by_contra hmarkup
    simp only [isMarkup, Bool.not_eq_false, Bool.or_eq_true, decide_eq_true_eq] at hmarkup
    obtain ((rfl | rfl) | rfl) | rfl := hmarkup
    all_goals exact absurd hdigit (by decide)
  · rintro rfl
    exact absurd hdigit (by decide)

theorem plain_signedText (number : Int) : ∀ byte ∈ signedText number, isMarkup byte = false ∧ byte ≠ 0x26 := by
  intro byte hbyte
  obtain hsign | hdigit := List.mem_append.mp hbyte
  · split_ifs at hsign
    · obtain rfl := List.mem_singleton.mp hsign
      decide
    · exact absurd hsign List.not_mem_nil
  · exact plain_of_isDigit (Decimal.isDigit_of_mem_digitsOf _ byte hdigit)

theorem length_signedText_le (rssi : Int8) : (signedText rssi.toInt).length ≤ 4 := by
  have hlower := rssi.le_toInt
  have hupper := rssi.toInt_lt
  have hdigits : (digitsOf rssi.toInt.natAbs).length ≤ 3 := Decimal.length_digitsOf_le (by decide) (by omega)
  rw [signedText, List.length_append]
  split_ifs
  · rw [List.length_singleton]
    omega
  · rw [List.length_nil]
    omega

theorem length_appendHtmlEscaped_lt {text out : List UInt8} {outSize : Nat} (hout : out.length < outSize) :
    (appendHtmlEscaped outSize out text).length < outSize := by
  induction text generalizing out with
  | nil => exact hout
  | cons byte text ih =>
    rw [appendHtmlEscaped_cons]
    split_ifs with hroom
    · refine ih ?_
      have hbyte := (length_escapeByte_le byte).1
      rw [List.length_append]
      omega
    · exact hout

/-- The buffer of an option has room for it. -/
theorem optionHtml_eq (network : DiscoveredNetwork) :
    optionHtml network = ascii "<option value='" ++ (appendHtmlEscaped 192 [] network.ssid ++ (ascii "'>" ++
      ((appendHtmlEscaped 192 [] network.ssid ++ strengthText network.rssi) ++ ascii "</option>"))) := by
  have hescaped := @length_appendHtmlEscaped_lt network.ssid [] 192 (by decide)
  have hstrength := length_signedText_le network.rssi
  have htail : ascii " dBm)</option>" = ascii " dBm)" ++ ascii "</option>" := rfl
  have hlengths : (ascii "<option value='").length = 15 ∧ (ascii "'>").length = 2 ∧ (ascii " (").length = 2 ∧
      (ascii " dBm)").length = 5 ∧ (ascii "</option>").length = 9 := by decide
  rw [optionHtml, List.take_of_length_le]
  · simp only [htail, strengthText, List.append_assoc]
  · simp only [htail, List.length_append, hlengths]
    omega

theorem plain_strengthText (rssi : Int8) : ∀ byte ∈ strengthText rssi, isMarkup byte = false ∧ byte ≠ 0x26 := by
  simp only [strengthText, List.forall_mem_append]
  exact ⟨⟨by decide +kernel, plain_signedText _⟩, by decide +kernel⟩

/-- Whatever a network is called, a reader finds its option as it is meant. -/
theorem read_optionHtml (network : DiscoveredNetwork) :
    Reader.start.read (optionHtml network) = ⟨(optionTokens network).reverse, .text []⟩ := by
  obtain ⟨kept, -, hescaped⟩ := @appendHtmlEscaped_eq 192 network.ssid []
  rw [List.nil_append] at hescaped
  have hshown : shownSsid network.ssid = kept := by rw [shownSsid, hescaped, decode_escape]
  have hkept := isMarkup_escape kept
  have htext : escape kept ++ strengthText network.rssi = escape (kept ++ strengthText network.rssi) := by
    rw [escape_append, escape_of_plain (plain_strengthText network.rssi)]
  have hne : (escape (kept ++ strengthText network.rssi)).reverse ≠ [] := by
    have hstrength : strengthText network.rssi ≠ [] :=
      List.append_ne_nil_of_left_ne_nil (List.append_ne_nil_of_left_ne_nil (by decide) _) _
    rw [← htext]
    exact mt List.reverse_eq_nil_iff.mp (List.append_ne_nil_of_right_ne_nil _ hstrength)
  have hopened : Reader.start.read (ascii "<option value='") =
      ⟨[], .quoted ⟨ascii "option", []⟩ (ascii "value") 0x27 []⟩ := by decide +kernel
  have hclosed : ∀ value : List UInt8, (Reader.mk [] (.quoted ⟨ascii "option", []⟩ (ascii "value") 0x27 value)).read
      (ascii "'>") = ⟨[.tag (ascii "option") [(ascii "value", decode value.reverse)]], .text []⟩ := fun _ => rfl
  have hended : ∀ (tokens : List Token) (content : List UInt8), (Reader.mk tokens (.text content)).read
      (ascii "</option>") = ⟨.tag (ascii "/option") [] :: (Reader.mk tokens (.text content)).closeText content,
        .text []⟩ := fun _ _ => rfl
  have hstrength := fun byte hbyte => (plain_strengthText network.rssi byte hbyte).1
  rw [optionHtml_eq, hescaped, Reader.read_append, hopened, Reader.read_append, Reader.read_quoted (by decide) hkept,
    Reader.read_append, List.append_nil, hclosed, Reader.read_append,
    Reader.read_text (List.forall_mem_append.mpr ⟨hkept, hstrength⟩), hended, List.append_nil, htext,
    Reader.closeText, if_neg hne, List.reverse_reverse, List.reverse_reverse, decode_escape, decode_escape, optionTokens,
    hshown]
  rfl

theorem read_options (networks : List DiscoveredNetwork) (tokens : List Token) :
    (Reader.mk tokens (.text [])).read (networks.flatMap optionHtml) =
      ⟨(networks.flatMap optionTokens).reverse ++ tokens, .text []⟩ := by
  induction networks generalizing tokens with
  | nil => rfl
  | cons network networks ih =>
    rw [List.flatMap_cons, List.flatMap_cons, Reader.read_append, Reader.read_of_start (read_optionHtml network), ih,
      List.reverse_append, List.append_assoc]

/-- The tokens around the options. -/
def pageHead : List Token := (Reader.start.read (PAGE_TOP ++ FORM_HEAD ++ SELECT_HEAD)).tokens.reverse

def pageTail : List Token := readPage (SELECT_TAIL ++ FORM_TAIL)

theorem read_pageHead : Reader.start.read (PAGE_TOP ++ FORM_HEAD ++ SELECT_HEAD) = ⟨pageHead.reverse, .text []⟩ := by
  have hplace : (Reader.start.read (PAGE_TOP ++ FORM_HEAD ++ SELECT_HEAD)).place = .text [] := by decide +kernel
  rw [← hplace, pageHead, List.reverse_reverse]

/-- Names of networks put nothing into the page but their options. -/
theorem readPage_handleGetRoot (hnetworks : networks ≠ []) :
    readPage (handleGetRoot networks) = pageHead ++ networks.flatMap optionTokens ++ pageTail := by
  have hpage : handleGetRoot networks =
      (PAGE_TOP ++ FORM_HEAD ++ SELECT_HEAD) ++ (networks.flatMap optionHtml ++ (SELECT_TAIL ++ FORM_TAIL)) := by
    rw [handleGetRoot, if_neg hnetworks]
    simp only [List.append_assoc]
  rw [readPage, hpage, Reader.read_append, read_pageHead, Reader.read_append, read_options, ← Reader.behind_start,
    Reader.behind_read, Reader.behind_finished, List.reverse_append, List.reverse_reverse, List.reverse_reverse]
  rfl

/-- The values that a page lets the user choose from. -/
def optionValues (tokens : List Token) : List (List UInt8) :=
  tokens.filterMap fun token =>
    match token with
    | .tag name attributes => if name = ascii "option" then attributes.lookup (ascii "value") else none
    | .text _ => none

theorem optionValues_append (front back : List Token) :
    optionValues (front ++ back) = optionValues front ++ optionValues back :=
  List.filterMap_append

theorem optionValues_option (network : DiscoveredNetwork) :
    optionValues (optionTokens network) = [shownSsid network.ssid] := by
  have hend : ascii "/option" ≠ ascii "option" := by decide
  simp only [optionValues, optionTokens, List.filterMap_cons, List.filterMap_nil, if_true, if_neg hend,
    List.lookup_cons_self]

theorem optionValues_options (networks : List DiscoveredNetwork) :
    optionValues (networks.flatMap optionTokens) = networks.map fun network => shownSsid network.ssid := by
  induction networks with
  | nil => rfl
  | cons network networks ih =>
    rw [List.flatMap_cons, optionValues_append, optionValues_option, ih, List.map_cons, List.singleton_append]

theorem optionValues_handleGetRoot (hnetworks : networks ≠ []) :
    optionValues (readPage (handleGetRoot networks)) = (networks.map fun network => shownSsid network.ssid) ++ [[]] := by
  have hhead : optionValues pageHead = [] := by decide +kernel
  have htail : optionValues pageTail = [[]] := by decide +kernel
  rw [readPage_handleGetRoot hnetworks, optionValues_append, optionValues_append, optionValues_options, hhead, htail,
    List.nil_append]

end Page

section Choice

open FormEncoding WiFiProvisioningPortal

variable {records : List NearbyRecord} {networks : List DiscoveredNetwork} {unreserved : UnreservedSet}
  {fields : List Field}

/-- The network that the user picks on the page is the one that Central saves: a network that the scan
heard, by its whole name unless that begins with 31 quotation marks. Needs a form that arrives in one
`httpd_req_recv` and fits into the handler's buffers, and a restart timer that can be created. -/
theorem chosen_network_saved (hscan : IsScan records networks) (hnetworks : networks ≠ []) {value : List UInt8}
    (hvalue : value ∈ optionValues (readPage (handleGetRoot networks))) (hchosen : value ≠ [])
    (hform : FormFits unreserved fields) (hentered : entered fields "ssid" = value) (wifiWritten mqttWritten : Bool) :
    ∃ provisioning, handlePostSave (formBody unreserved fields) wifiWritten mqttWritten = some provisioning ∧
      provisioning.ssid = value ∧ (provisioning.restarts = true ↔ wifiWritten = true) ∧
      ∃ record ∈ records, value <+: record.ssid.text ∧
        ((∀ last, record.ssid.text ≠ List.replicate 31 0x22 ++ [last]) → value = record.ssid.text) := by
  have hssid : submittedSsid fields = value := by rw [submittedSsid, hentered, if_neg hchosen]
  have hposted := handlePostSave_entered hform wifiWritten mqttWritten
  refine ⟨_, hposted, hssid, ?_, ?_⟩
  · rw [restarts_iff hform hposted, hssid]
    exact and_iff_right hchosen
  · rw [optionValues_handleGetRoot hnetworks, List.mem_append, List.mem_singleton] at hvalue
    obtain ⟨network, hnetwork, rfl⟩ := List.mem_map.mp (hvalue.resolve_right hchosen)
    obtain ⟨record, hrecord, htext, -⟩ := hscan.lists.heard network hnetwork
    have hlength := hscan.terminated record hrecord
    rw [htext] at hlength
    refine ⟨record, hrecord, htext ▸ shownSsid_prefix network.ssid, fun hother => ?_⟩
    rw [htext] at hother ⊢
    exact (shownSsid_eq_iff hlength).mpr hother

def cafeForm : List Field := [("ssid".toUTF8.toList, ascii "<'Cafe'>"), ("password".toUTF8.toList, ascii "espresso")]

theorem formFits_cafe : FormFits .browser cafeForm where
  ne_nil := List.cons_ne_nil _ _
  length_le := by decide +kernel
  zero_notMem := by decide +kernel
  encodingFits := by
    have hshort : ∀ input ∈ formInputs, (encode .browser (entered cafeForm input.1)).length < input.2 := by
      decide +kernel
    exact fun input hinput => .inl (hshort input hinput)

theorem chosen_network_saved_cafe :
    ∃ provisioning, handlePostSave (formBody .browser cafeForm) true true = some provisioning ∧
      provisioning.ssid = ascii "<'Cafe'>" ∧ provisioning.restarts = true := by
  have hnetworks : cafeNetworks ≠ [] := List.cons_ne_nil _ _
  have hvalue : ascii "<'Cafe'>" ∈ optionValues (readPage (handleGetRoot cafeNetworks)) := by
    rw [optionValues_handleGetRoot hnetworks]
    refine List.mem_append_left _ (List.mem_map.mpr ⟨⟨ascii "<'Cafe'>", -60⟩, by decide, ?_⟩)
    decide +kernel
  obtain ⟨provisioning, hposted, hssid, hrestarts, -⟩ := chosen_network_saved isScan_cafe hnetworks hvalue
    (by decide) formFits_cafe (by decide +kernel) true true
  exact ⟨provisioning, hposted, hssid, hrestarts.mpr rfl⟩

end Choice

end kilowatts.NetworkPage
