import StatefulRoles.Shell.Word
/-!
# Scripts run inside a member

The init container copies the image's content of the persisted directories onto a new volume, with
`rsync` where it is able enough and with `cp` otherwise. The app container, once started, puts the
cluster's service in front of the search domains. Each script is one command string for bash.
-/
namespace StatefulRoles.Script

/-- Where the init container sees the persistent volume. Mirrors `INIT_MOUNT_PATH`. -/
def mountPath : String := "/mnt"

/-- Written on the volume once it has been populated. Mirrors `INIT_MARKER_FILE`. -/
def markerFile : String := "/etc/vcluster.init"

/-- Where the copy logs, on the volume. -/
def logDirectory : String := "/var/log/vcluster"
def logFile : String := "/var/log/vcluster/init.log"
def progressFile : String := "/var/log/vcluster/init-progress.log"

/-- Where the post-start script logs, in the container. Mirrors `STARTUP_LOG_FILE`. -/
def startupLogFile : String := "/tmp/vcluster-poststart.log"

/-- Tests whether `rsync` is there and knows every option that the copy uses; the shell variable
`RSYNC_CHECK_STATUS` is zero afterwards exactly when it does. Mirrors
`generate_rsync_probe_command`. -/
def rsyncProbe : String :=
  "rsync --log-file=./rsync-check-status-dummy.log --info=progress2 " ++
  "--relative -ax --version >/dev/null 2>&1; RSYNC_CHECK_STATUS=$?;"

/-- Copies with `rsync`, which logs and reports progress on the volume. Mirrors
`generate_rsync_command`. -/
def rsyncCopy (dirs : List String) : String :=
  s!"mkdir -p {mountPath}{logDirectory}; " ++
  s!"rsync --log-file={mountPath}{logFile} --info=progress2 " ++
  s!"--relative -ax {Shell.quoteAll dirs} {mountPath} " ++
  s!"> {mountPath}{progressFile}"

/-- Copies with `cp`. Mirrors `generate_cp_command`. -/
def plainCopy (dirs : List String) : String :=
  s!"cp --parents -ax {Shell.quoteAll dirs} {mountPath}"

/-- Populates the volume unless its marker says that this was done, and leaves the marker. Mirrors
`generate_init_container_launch`. -/
def populate (dirs : List String) : String :=
  s!"{rsyncProbe} " ++
  s!"if ! [ -f {mountPath}{markerFile} ]; then " ++
  s!"if [ $\x7bRSYNC_CHECK_STATUS\x7d != 0 ]; then {plainCopy dirs}; " ++
  s!"else {rsyncCopy dirs}; fi; " ++
  "fi; " ++
  s!"touch {mountPath}{markerFile}; exit 0"

/-- Waits for the resolver's configuration and puts the service's domain in front of its first
search domain, so that members find each other by their host names. Mirrors
`generate_startup_script`. -/
def startup (service : String) : String :=
  s!"exec 2>>{startupLogFile}; set -x;" ++
  "Retries=60; while [[ $Retries && ! -s /etc/resolv.conf ]]; do " ++
  "sleep 1; Retries=$(expr $Retries - 1); done; " ++
  "sed \"s/^search \\([^ ]\\+\\)/search " ++
  service ++
  ".\\1 \\1/\" /etc/resolv.conf > /tmp/resolv.conf.new && " ++
  "cat /tmp/resolv.conf.new > /etc/resolv.conf;" ++
  "rm -f /tmp/resolv.conf.new;" ++
  "chmod 755 /run;" ++
  "exit 0"

end StatefulRoles.Script
