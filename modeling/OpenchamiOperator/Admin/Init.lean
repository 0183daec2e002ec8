import OpenchamiOperator.Admin.Backup
import OpenchamiOperator.Api.Webhook
import OpenchamiOperator.Lib.Strconv

/-! # The manifest of `ochami-admin init`

`initOpts.validate` and `initOpts.buildCluster` of `internal/admin/init.go`, with the way of the
manifest through the API server: schema defaults, the webhook's `Default`, and its validation. The
flags that do not reach the manifest (`--skip-checks`, `--output`) are left out.

* `accepted_vault`, `accepted_targets`: what accepted flags say.
* `admission_marshal`: the specification that the webhook sees.
* `init_applyable_iff`: which flags give a manifest that is admitted with CoreDHCP and Magellan as
  they were chosen. -/

namespace OpenchamiOperator.Admin

open Lib Strings Strconv Api

/-! ### Flags -/

/-- `initOpts`. -/
structure InitOpts where
  clusterName : String := ""
  domain : String := ""
  vaultAddr : String := ""
  vaultAuth : String := "kubernetes"
  allowInsecureVault : Bool := false
  s3Endpoint : String := ""
  provisionSubnet : String := ""
  provisionValidateHost : String := ""
  provisionValidatePort : ℤ := 0
  bmcSubnet : String := ""
  bmcValidateHost : String := ""
  bmcValidatePort : ℤ := 0
  dhcpRange : String := ""

/-- `initClusterNameRegexp.MatchString`. -/
def initClusterNameMatch (s : String) : Bool :=
  match s.toList with
  | [] => false
  | c :: cs => ('a' ≤ c && c ≤ 'z') && decide (cs.length ≤ 31) &&
      cs.all fun c => ('a' ≤ c && c ≤ 'z') || c.isDigit || c = '-'

section Validate

variable (isPrint : Char → Bool)

/-- `initSplitDHCPRange`: the first hyphen separates the addresses, and neither side is empty. -/
def initSplitDHCPRange (s : String) : Except String (String × String) :=
  match cut '-' s with
  | (_, none) => .error ("--dhcp-range " ++ quote isPrint s ++ " must be of the form start-end")
  | (before, some after) =>
    if before = "" ∨ after = "" then
      .error ("--dhcp-range " ++ quote isPrint s ++ " must be of the form start-end")
    else if (Netip.parseIP (trimSpace before)).isNone then
      .error ("--dhcp-range start " ++ quote isPrint (trimSpace before) ++
        " is not a valid IP address")
    else if (Netip.parseIP (trimSpace after)).isNone then
      .error ("--dhcp-range end " ++ quote isPrint (trimSpace after) ++
        " is not a valid IP address")
    else .ok (trimSpace before, trimSpace after)

/-- The checks of `--cluster-name` and `--domain`. -/
def InitOpts.validateNames (o : InitOpts) : Option String :=
  if o.clusterName = "" then some "--cluster-name is required"
  else if !initClusterNameMatch o.clusterName then
    some ("--cluster-name " ++ quote isPrint o.clusterName ++
      " is invalid; must match ^[a-z][a-z0-9-]\x7b0,31\x7d$")
  else if o.domain = "" then some "--domain is required"
  else if !contains o.domain "." then
    some ("--domain " ++ quote isPrint o.domain ++ " is invalid; must contain a dot")
  else if (Url.parse o.domain).any fun u => u.scheme ≠ "" then
    some ("--domain " ++ quote isPrint o.domain ++ " must be a bare FQDN, not a URL with a scheme")
  else if o.domain.toList.any fun c => c = '/' ∨ c = ':' then
    some ("--domain " ++ quote isPrint o.domain ++
      " must be a bare FQDN, not a URL with a path or port")
  else none

/-- The checks of `--vault-addr`, `--vault-auth` and `--s3-endpoint`. -/
def InitOpts.validatePlatform (o : InitOpts) : Option String :=
  if o.vaultAddr = "" then some "--vault-addr is required"
  else if !hasPrefix o.vaultAddr "https://" &&
      (!o.allowInsecureVault || !hasPrefix o.vaultAddr "http://") then
    some ("--vault-addr " ++ quote isPrint o.vaultAddr ++
      " must start with https:// (or pass --allow-insecure-vault to allow http://)")
  else if o.vaultAuth ≠ "kubernetes" ∧ o.vaultAuth ≠ "appRole" then
    some ("--vault-auth " ++ quote isPrint o.vaultAuth ++
      " is invalid; must be one of: kubernetes, appRole")
  else if o.s3Endpoint = "" then some "--s3-endpoint is required"
  else none

/-- The check of the flags for one network. -/
def validateProbeFlags (name subnet host : String) (port : ℤ) : Option String :=
  if subnet = "" ∧ host = "" ∧ port = 0 then none
  else ({ subnet := subnet, host := host, port := port } : NetworkProbe.Target).validate.map fun e =>
    name ++ " network probe flags: " ++ e

/-- `initOpts.validate`: the text of the error, if there is one. -/
def InitOpts.validate (o : InitOpts) : Option String :=
  (o.validateNames isPrint).or <| (o.validatePlatform isPrint).or <|
  (validateProbeFlags "provision" o.provisionSubnet o.provisionValidateHost
    o.provisionValidatePort).or <|
  (validateProbeFlags "bmc" o.bmcSubnet o.bmcValidateHost o.bmcValidatePort).or <|
  if o.dhcpRange = "" then none
  else match initSplitDHCPRange isPrint o.dhcpRange with
    | .error e => some e
    | .ok _ => none

/-! ### The manifest -/

/-- A target of the network probe, if a subnet is given. -/
def initTarget (subnet host : String) (port : ℤ) : Option NetworkProbeTarget :=
  if subnet = "" then none
  else some { subnet := subnet, validateHost := host, validatePort := port }

/-- `initOpts.buildCluster`. -/
def InitOpts.buildCluster (o : InitOpts) : TypedObject :=
  let probeEnabled := decide (o.provisionSubnet ≠ "" ∨ o.bmcSubnet ≠ "")
  let dhcpEnabled := decide (o.provisionSubnet ≠ "" ∨ o.dhcpRange ≠ "")
  let magellanEnabled := decide (o.bmcSubnet ≠ "")
  let discriminator := GoMap.ofList [("openchami.org/dhcp-cluster", o.clusterName)]
  { apiVersion := "openchami.openchami.org/v1alpha1"
    kind := "OpenCHAMIControlPlane"
    object :=
      { metadata := { name := o.clusterName, «namespace» := "default" }
        spec :=
          { clusterName := o.clusterName
            domain := o.domain
            platform :=
              { vault :=
                  { address := o.vaultAddr
                    authMethod := if o.vaultAuth = "appRole" then .appRole
                      else if o.vaultAuth = "kubernetes" then .kubernetes else .unset
                    appRoleSecretRef := if o.vaultAuth = "appRole" then
                      some (o.clusterName ++ "-vault-approle") else none }
                objectStorage := { endpoint := o.s3Endpoint } }
            networkProbe :=
              { enabled := probeEnabled
                provisionNetwork := initTarget o.provisionSubnet o.provisionValidateHost
                  o.provisionValidatePort
                bmcNetwork := initTarget o.bmcSubnet o.bmcValidateHost o.bmcValidatePort }
            services :=
              { smd := { enabled := true }
                tokensmith := { enabled := true, oidcProvider := "vault" }
                bootService := { enabled := true }
                metadataService := { enabled := true }
                coreDHCP :=
                  { enabled := dhcpEnabled
                    nodeSelector := if probeEnabled then .empty else discriminator
                    leaseRanges := if o.dhcpRange = "" then []
                      else match initSplitDHCPRange isPrint o.dhcpRange with
                        | .ok (start, stop) =>
                          [{ subnet := o.provisionSubnet, start := start, «end» := stop }]
                        -- the error is dropped, both halves are empty
                        | .error _ => [{ subnet := o.provisionSubnet }] }
                magellan :=
                  { enabled := magellanEnabled
                    nodeSelector := if magellanEnabled && !probeEnabled then discriminator else .empty
                    bmcSubnet := o.bmcSubnet } } } } }

end Validate

/-- What the webhook is asked about: the document with the defaults of the schema and then those of
the webhook. -/
def admission (m : Manifest) : Option ControlPlane :=
  (storedSpec m).map fun s => Webhook.default ⟨m.metadata, s, m.status⟩

/-! ### What accepted flags say -/

section Accepted

variable {isPrint : Char → Bool} {o : InitOpts}

theorem accepted_parts (h : o.validate isPrint = none) :
    o.validateNames isPrint = none ∧ o.validatePlatform isPrint = none ∧
      validateProbeFlags "provision" o.provisionSubnet o.provisionValidateHost
        o.provisionValidatePort = none ∧
      validateProbeFlags "bmc" o.bmcSubnet o.bmcValidateHost o.bmcValidatePort = none := by
  simp only [InitOpts.validate, Option.or_eq_none_iff] at h
  exact ⟨h.1, h.2.1, h.2.2.1, h.2.2.2.1⟩

/-- Without `--allow-insecure-vault` Vault is reached by https. -/
theorem accepted_vault (h : o.validate isPrint = none) (hsecure : o.allowInsecureVault = false) :
    hasPrefix o.vaultAddr "https://" = true := by
  have hplatform := (accepted_parts h).2.1
  unfold InitOpts.validatePlatform at hplatform
  by_contra hprefix
  have hhttp : hasPrefix o.vaultAddr "https://" = false := Bool.eq_false_iff.mpr hprefix
  by_cases hempty : o.vaultAddr = "" <;> simp [hsecure, hhttp, hempty] at hplatform

theorem accepted_name (h : o.validate isPrint = none) : o.clusterName ≠ "" := by
  have hnames := (accepted_parts h).1
  unfold InitOpts.validateNames at hnames
  intro hempty
  simp [hempty] at hnames

/-- The webhook accepts a target whose flags are accepted. -/
theorem validateTarget_of_flags {name field subnet host : String} {port : ℤ}
    (h : validateProbeFlags name subnet host port = none) :
    Webhook.validateTarget field (initTarget subnet host port) = [] := by
  unfold initTarget
  split_ifs with hsubnet
  · rfl
  · unfold validateProbeFlags at h
    simp only [hsubnet, false_and, if_false, Option.map_eq_none_iff] at h
    simp [Webhook.validateTarget, h]

end Accepted

/-! ### The object the webhook sees -/

section Seen

variable {isPrint : Char → Bool} {o : InitOpts}

/-- The specification after the defaults of the schema and of the webhook. -/
def InitOpts.seen (isPrint : Char → Bool) (o : InitOpts) : ControlPlaneSpec :=
  Webhook.defaultSpec (Wire.spec.filled (o.buildCluster isPrint).object.spec)

theorem admission_marshal (isPrint : Char → Bool) (o : InitOpts) :
    admission (marshal (o.buildCluster isPrint)) =
      some ⟨(o.buildCluster isPrint).object.metadata, o.seen isPrint, {}⟩ := by
  unfold admission
  rw [storedSpec_marshal]
  rfl

theorem seen_vault : (o.seen isPrint).platform.vault =
    { (o.buildCluster isPrint).object.spec.platform.vault with
      authMethod := Wire.authMethod.filledOr (some .kubernetes)
        (o.buildCluster isPrint).object.spec.platform.vault.authMethod } := by
  unfold InitOpts.seen
  rw [Wire.spec_filled]
  simp only [Webhook.defaultSpec, Webhook.defaultPlatform, Wire.platform_filled, Wire.vault_filled]

theorem seen_networkProbe : (o.seen isPrint).networkProbe =
    { (o.buildCluster isPrint).object.spec.networkProbe with intervalSeconds := 300 } := by
  unfold InitOpts.seen
  rw [Wire.spec_filled]
  simp only [Webhook.defaultSpec, Wire.networkProbe_filled]
  rfl

theorem seen_coreDHCP : (o.seen isPrint).services.coreDHCP.enabled = true ∧
    (o.seen isPrint).services.coreDHCP.configMapRef = none ∧
    (o.seen isPrint).services.coreDHCP.nodeSelector =
      (o.buildCluster isPrint).object.spec.services.coreDHCP.nodeSelector := by
  unfold InitOpts.seen
  rw [Wire.spec_filled]
  simp only [Webhook.defaultSpec, Webhook.defaultServices, Wire.services_filled,
    Wire.coreDHCP_filled]
  exact ⟨rfl, rfl, rfl⟩

theorem seen_magellan : (o.seen isPrint).services.magellan.enabled = true := by
  unfold InitOpts.seen
  rw [Wire.spec_filled]
  simp only [Webhook.defaultSpec, Webhook.defaultServices, Wire.services_filled,
    Wire.magellan_filled]

theorem seen_tokensmith : (o.seen isPrint).services.tokensmith.oidcProvider = "vault" ∧
    (o.seen isPrint).services.tokensmith.externalEndpoint = none ∧
    (o.seen isPrint).services.tokensmith.cliOIDC =
      ⟨["http://127.0.0.1:8250/callback"], ["allow_all"]⟩ := by
  unfold InitOpts.seen
  rw [Wire.spec_filled]
  simp only [Webhook.defaultSpec, Webhook.defaultServices, Webhook.defaultTokensmith,
    Wire.services_filled, Wire.tokensmith_filled]
  exact ⟨rfl, rfl, rfl⟩

theorem seen_external : (o.seen isPrint).services.smd.externalEndpoint = none ∧
    (o.seen isPrint).services.bootService.externalEndpoint = none ∧
    (o.seen isPrint).services.metadataService.externalEndpoint = none := by
  unfold InitOpts.seen
  rw [Wire.spec_filled]
  simp only [Webhook.defaultSpec, Webhook.defaultServices, Wire.services_filled, Wire.smd_filled,
    Wire.bootService_filled, Wire.metadataService_filled]
  exact ⟨rfl, rfl, rfl⟩

theorem seen_stream : (o.seen isPrint).images.stream = .release := by
  unfold InitOpts.seen
  rw [Wire.spec_filled]
  simp only [Webhook.defaultSpec, Wire.images_filled]
  rfl

theorem seen_name : (o.seen isPrint).clusterName = o.clusterName := by
  unfold InitOpts.seen
  rw [Wire.spec_filled]
  rfl

end Seen

/-! ### Admission -/

section Admission

variable {isPrint : Char → Bool} {o : InitOpts}

theorem ownErrors_eq {cp : ControlPlane} (h : o.validate isPrint = none)
    (hsecure : o.allowInsecureVault = false) (hspec : cp.spec = o.seen isPrint) :
    Webhook.ownErrors cp = if !(o.seen isPrint).networkProbe.enabled then
      Webhook.validateSelector (o.seen isPrint) else Webhook.validateProbe (o.seen isPrint) := by
  obtain ⟨hprovider, htoken, hcli⟩ := @seen_tokensmith isPrint o
  obtain ⟨hsmd, hboot, hmeta⟩ := @seen_external isPrint o
  obtain ⟨-, href, -⟩ := @seen_coreDHCP isPrint o
  have hvault : Webhook.validateVault (o.seen isPrint) = [] := by
    have hallowed : Webhook.isAllowedVaultAddress o.vaultAddr = true := by
      simp [Webhook.isAllowedVaultAddress, accepted_vault h hsecure]
    have hissuer : trimSpace "" = "" := by decide
    unfold Webhook.validateVault
    rw [seen_vault, hprovider]
    by_cases hrole : o.vaultAuth = "appRole"
    · simp [InitOpts.buildCluster, hrole, hallowed, hissuer, Webhook.errIf]
    · have hmethod : Wire.authMethod.filledOr (some .kubernetes)
          (if o.vaultAuth = "kubernetes" then .kubernetes else .unset) ≠ .appRole := by
        split_ifs <;> decide
      simp [InitOpts.buildCluster, hrole, hallowed, hissuer, hmethod, Webhook.errIf]
  have hclioidc : Webhook.validateCLIOIDC (o.seen isPrint).services.tokensmith.cliOIDC = [] := by
    rw [hcli]
    decide +kernel
  have hexternal : ((Webhook.externallyOverridableServices (o.seen isPrint).services).flatMap
      fun x => Webhook.validateExternalEndpoint x.1 x.2) = [] := by
    simp [Webhook.externallyOverridableServices, Webhook.validateExternalEndpoint, hsmd, htoken,
      hboot, hmeta]
  have hsource : Webhook.validateCoreDHCPConfigSource (o.seen isPrint).services.coreDHCP = [] := by
    simp [Webhook.validateCoreDHCPConfigSource, href]
  have himages : Webhook.validateImages (o.seen isPrint) = [] := by
    simp [Webhook.validateImages, seen_stream, Webhook.errIf]
  unfold Webhook.ownErrors
  rw [hspec, hvault, hclioidc, hexternal, hsource, himages]
  simp

/-- With a network the webhook asks for both of them. -/
theorem validateProbe_eq_nil (h : o.validate isPrint = none) :
    Webhook.validateProbe (o.seen isPrint) = [] ↔ o.provisionSubnet ≠ "" ∧ o.bmcSubnet ≠ "" := by
  obtain ⟨-, -, hprovision, hbmc⟩ := accepted_parts h
  have htargets : Webhook.validateNetworkProbeTargets (o.seen isPrint).networkProbe = [] := by
    unfold Webhook.validateNetworkProbeTargets
    rw [seen_networkProbe]
    simp only [InitOpts.buildCluster, validateTarget_of_flags hprovision,
      validateTarget_of_flags hbmc]
    rfl
  have hnone : ∀ subnet host port, (initTarget subnet host port).isNone = decide (subnet = "") := by
    intro subnet host port
    unfold initTarget
    split_ifs with hsubnet <;> simp [hsubnet]
  unfold Webhook.validateProbe
  rw [htargets, seen_coreDHCP.1, seen_magellan, seen_networkProbe]
  simp [InitOpts.buildCluster, hnone, Webhook.errIf_eq_nil]

/-- Without a network the selector names the cluster. -/
theorem validateSelector_eq_nil (h : o.validate isPrint = none) (hprovision : o.provisionSubnet = "")
    (hbmc : o.bmcSubnet = "") : Webhook.validateSelector (o.seen isPrint) = [] := by
  have hselector : (o.seen isPrint).services.coreDHCP.nodeSelector =
      GoMap.ofList [("openchami.org/dhcp-cluster", o.clusterName)] := by
    rw [seen_coreDHCP.2.2]
    simp [InitOpts.buildCluster, hprovision, hbmc]
  have hlen : (GoMap.ofList [("openchami.org/dhcp-cluster", o.clusterName)]).len = 1 := rfl
  have hnamed : Webhook.nodeSelectorHasClusterDiscriminator
      (GoMap.ofList [("openchami.org/dhcp-cluster", o.clusterName)]) o.clusterName = true := by
    have hself : contains o.clusterName o.clusterName = true := decide_eq_true (List.infix_refl _)
    simp [Webhook.nodeSelectorHasClusterDiscriminator, accepted_name h, GoMap.ofList, GoMap.insert,
      GoMap.empty, GoMap.insertEntry, hself]
  unfold Webhook.validateSelector
  rw [hselector, hlen, seen_name, hnamed]
  rfl

/-- The manifest is admitted with both networks or with none. -/
theorem admitted_iff (h : o.validate isPrint = none) (hsecure : o.allowInsecureVault = false)
    {cp : ControlPlane} (hcp : admission (marshal (o.buildCluster isPrint)) = some cp) :
    (Webhook.validate (some []) cp).2 = none ↔ (o.provisionSubnet = "" ↔ o.bmcSubnet = "") := by
  rw [admission_marshal] at hcp
  have hspec : cp.spec = o.seen isPrint := by
    cases hcp
    rfl
  have hothers : Webhook.validationErrors (Webhook.listOtherClusters [] cp) cp = [] ↔
      Webhook.ownErrors cp = [] := by
    rw [Webhook.validationErrors_eq_nil]
    simp [Webhook.listOtherClusters]
  have henabled : (o.seen isPrint).networkProbe.enabled =
      decide (o.provisionSubnet ≠ "" ∨ o.bmcSubnet ≠ "") := by
    rw [seen_networkProbe]
    rfl
  rw [Webhook.validate_admits, hothers, ownErrors_eq h hsecure hspec, henabled]
  by_cases hprovision : o.provisionSubnet = ""
  · by_cases hbmc : o.bmcSubnet = ""
    · simp [hprovision, hbmc, validateSelector_eq_nil h hprovision hbmc]
    · simp [hprovision, hbmc, validateProbe_eq_nil h]
  · by_cases hbmc : o.bmcSubnet = ""
    · simp [hprovision, hbmc, validateProbe_eq_nil h]
    · simp [hprovision, hbmc, validateProbe_eq_nil h]

/-- **The manifest of `init`**: it is admitted with CoreDHCP and Magellan as the flags choose them
exactly when both subnets are given. -/
theorem init_applyable_iff (isPrint : Char → Bool) (o : InitOpts) (h : o.validate isPrint = none)
    (hsecure : o.allowInsecureVault = false) :
    ∃ cp, admission (marshal (o.buildCluster isPrint)) = some cp ∧
      ((Webhook.validate (some []) cp).2 = none ∧
        cp.spec.services.coreDHCP.enabled =
          (o.buildCluster isPrint).object.spec.services.coreDHCP.enabled ∧
        cp.spec.services.magellan.enabled =
          (o.buildCluster isPrint).object.spec.services.magellan.enabled ↔
        o.provisionSubnet ≠ "" ∧ o.bmcSubnet ≠ "") := by
  refine ⟨_, admission_marshal isPrint o, ?_⟩
  rw [admitted_iff h hsecure (admission_marshal isPrint o)]
  simp only [seen_coreDHCP.1, seen_magellan, InitOpts.buildCluster]
  by_cases hprovision : o.provisionSubnet = "" <;> by_cases hbmc : o.bmcSubnet = "" <;>
    simp [hprovision, hbmc]

end Admission

/-! ### Two sets of flags -/

/-- Flags without networks. -/
def plainFlags : InitOpts where
  clusterName := "alpha"
  domain := "alpha.example.org"
  vaultAddr := "https://vault.example.org:8200"
  s3Endpoint := "https://s3.example.org:10000"

/-- Flags with one or both networks. -/
def networkFlags (bmcSubnet : String) : InitOpts :=
  { plainFlags with provisionSubnet := "10.42.0.0/16", bmcSubnet := bmcSubnet }

/-- `unicode.IsPrint` on the characters of these flags. -/
def printable (c : Char) : Bool := 32 ≤ c.toNat && c.toNat < 127

/-- With both networks the manifest can be applied. -/
theorem init_applyable_networks :
    (networkFlags "10.43.0.0/16").validate printable = none ∧
    ∃ cp, admission (marshal ((networkFlags "10.43.0.0/16").buildCluster printable)) = some cp ∧
      (Webhook.validate (some []) cp).2 = none ∧
      cp.spec.services.coreDHCP.enabled = true ∧ cp.spec.services.magellan.enabled = true := by
  have haccepted : (networkFlags "10.43.0.0/16").validate printable = none := by decide +kernel
  obtain ⟨cp, hcp, hiff⟩ := init_applyable_iff printable (networkFlags "10.43.0.0/16") haccepted rfl
  obtain ⟨hvalid, hdhcp, hmagellan⟩ := hiff.mpr ⟨by decide, by decide⟩
  exact ⟨haccepted, cp, hcp, hvalid, hdhcp, hmagellan⟩

/-- With one network the manifest is refused, since Magellan is switched on. -/
theorem init_refused :
    (networkFlags "").validate printable = none ∧
    ((networkFlags "").buildCluster printable).object.spec.services.magellan.enabled = false ∧
    ∃ cp, admission (marshal ((networkFlags "").buildCluster printable)) = some cp ∧
      cp.spec.services.magellan.enabled = true ∧ (Webhook.validate (some []) cp).2 ≠ none := by
  have haccepted : (networkFlags "").validate printable = none := by decide +kernel
  have hcp := admission_marshal printable (networkFlags "")
  refine ⟨haccepted, rfl, _, hcp, seen_magellan, fun hadmitted => ?_⟩
  exact absurd ((admitted_iff haccepted rfl hcp).mp hadmitted) (by decide)

end OpenchamiOperator.Admin
