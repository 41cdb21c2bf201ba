/-!
The limits of a configuration. Lengths are in bytes of UTF-8. What exceeds a limit is refused and
never cut.
-/

namespace NodePolicy.Limits

def versionBytes : Nat := 32
def nodeTypeBytes : Nat := 64
def labelBytes : Nat := 32
def labels : Nat := 8

def deviceNameBytes : Nat := 64
def devices : Nat := 16
def hostDevices : Nat := 4
def hostDeviceBytes : Nat := 128

def groupBytes : Nat := 64
def groups : Nat := 8

def resourceNameBytes : Nat := 64
def resources : Nat := 16
def environment : Nat := 8
def variableBytes : Nat := 256

def mounts : Nat := 4
def mountPathBytes : Nat := 256
def mountTypeBytes : Nat := 32
def mountOptionBytes : Nat := 64
def mountOptions : Nat := 8

def hosts : Nat := 4
def addressBytes : Nat := 45
def hostNameBytes : Nat := 255

def partitions : Nat := 4
def partitionNameBytes : Nat := 64

end NodePolicy.Limits
