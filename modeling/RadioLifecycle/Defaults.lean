/-!
Names and values in force where nothing else is chosen.
-/

namespace RadioLifecycle.Defaults

/-- The version of the library and of everything that comes with it. -/
def version : String := "0.1.0"

/-- The name under which the service logs. -/
def serviceName : String := "wifi_hal"

def vendorName : String := "simulation"

def interfaceName : String := "wlan0"

def interfaceProperty : String := "wifi.interface"

def configPath : String := "/etc/wifi_hal/hal.toml"

end RadioLifecycle.Defaults
