/-!
The member names of a configuration document. Reading does not mind their letter case; writing uses
these spellings.
-/

namespace NodePolicy.Key

def version : String := "version"
def nodeType : String := "nodeType"
def priority : String := "priority"
def devices : String := "devices"
def resources : String := "resources"
def labels : String := "labels"
def alertRules : String := "alertRules"

def name : String := "name"
def sharedCount : String := "sharedCount"
def groups : String := "groups"
def hostDevices : String := "hostDevices"
def mounts : String := "mounts"
def environment : String := "env"
def hosts : String := "hosts"

def destination : String := "destination"
def mountType : String := "type"
def source : String := "source"
def options : String := "options"

def address : String := "ip"
def hostName : String := "hostName"

def ram : String := "ram"
def cpu : String := "cpu"
def partitions : String := "partitions"
def download : String := "download"
def upload : String := "upload"
def minTimeout : String := "minTimeout"
def minThreshold : String := "minThreshold"
def maxThreshold : String := "maxThreshold"

def all : List String :=
  [ version, nodeType, priority, devices, resources, labels, alertRules, name, sharedCount, groups,
    hostDevices, mounts, environment, hosts, destination, mountType, source, options, address,
    hostName, ram, cpu, partitions, download, upload, minTimeout, minThreshold, maxThreshold ]

end NodePolicy.Key
