import BundleHost.Settings.Values

/-! What the program asks of the web server that runs the service. -/

namespace BundleHost

structure Launch where
  app : Text := "assetdock.main:app"
  host : Value
  port : Value
  logLevel : Text

/-- The launch under some settings, of which the level of the log has to be a text. -/
def Settings.Values.launch (v : Settings.Values) : Except Failure Launch :=
  v.logLevel.asText.map fun level =>
    { host := v.host, port := v.port, logLevel := Text.lower level }

end BundleHost
