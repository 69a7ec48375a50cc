import BundleHost.Security.Config
import BundleHost.Validation.Scalar

/-! Checking of security configurations that are given as records. A section or a field that is
not given has its default. -/

namespace BundleHost.Security

open Validation

def checkTransport : Check TransportSection :=
  checkRecord "HstsConfig" fun given =>
    let d : TransportSection := {}
    (Checked.valid TransportSection.mk)
      |>.ap (fieldOr given "enabled" d.enabled checkBool)
      |>.ap (fieldOr given "max_age" d.maxAge fun v => (checkAtLeast 0 v).map Int.toNat)
      |>.ap (fieldOr given "include_subdomains" d.includeSubdomains checkBool)
      |>.ap (fieldOr given "preload" d.preload checkBool)

def checkFrame : Check FrameSection :=
  checkRecord "FrameOptionsConfig" fun given =>
    let d : FrameSection := {}
    (Checked.valid FrameSection.mk)
      |>.ap (fieldOr given "enabled" d.enabled checkBool)
      |>.ap (fieldOr given "policy" d.policy (checkChoice FramePolicy.all FramePolicy.label))
      |>.ap (fieldOr given "allow_from" d.allowFrom (checkOptional checkText))

def checkContent : Check ContentSection :=
  checkRecord "CspConfig" fun given =>
    let d : ContentSection := {}
    (Checked.valid ContentSection.mk)
      |>.ap (fieldOr given "enabled" d.enabled checkBool)
      |>.ap (fieldOr given "policy" d.policy checkText)
      |>.ap (fieldOr given "report_only" d.reportOnly checkBool)

def checkReferrer : Check ReferrerSection :=
  checkRecord "ReferrerPolicyConfig" fun given =>
    let d : ReferrerSection := {}
    (Checked.valid ReferrerSection.mk)
      |>.ap (fieldOr given "enabled" d.enabled checkBool)
      |>.ap (fieldOr given "policy" d.policy
        (checkChoice ReferrerPolicy.all ReferrerPolicy.label))

def checkPermissions : Check PermissionsSection :=
  checkRecord "PermissionsPolicyConfig" fun given =>
    let d : PermissionsSection := {}
    (Checked.valid PermissionsSection.mk)
      |>.ap (fieldOr given "enabled" d.enabled checkBool)
      |>.ap (fieldOr given "policy" d.policy checkText)

def checkConfig : Check Config :=
  checkRecord "SecurityHeadersConfig" fun given =>
    let d : Config := {}
    (Checked.valid Config.mk)
      |>.ap (fieldOr given "enabled" d.enabled checkBool)
      |>.ap (fieldOr given "hsts" d.transport checkTransport)
      |>.ap (fieldOr given "content_type_options" d.contentTypeOptions checkBool)
      |>.ap (fieldOr given "frame_options" d.frame checkFrame)
      |>.ap (fieldOr given "xss_protection" d.xssProtection checkBool)
      |>.ap (fieldOr given "csp" d.content checkContent)
      |>.ap (fieldOr given "referrer_policy" d.referrer checkReferrer)
      |>.ap (fieldOr given "permissions_policy" d.permissions checkPermissions)

end BundleHost.Security
