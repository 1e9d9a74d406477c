import AmqpHandshake.Link.Spec

/-! The application links of a hub. -/
namespace AmqpHandshake

/-- The application link that is opened once the connection is authenticated. -/
inductive ServiceLink
  /-- Sends messages to devices. -/
  | cloudToDeviceMessages
  /-- Receives delivery feedback. -/
  | feedback
  /-- Receives notices of file uploads. -/
  | fileNotifications
  | custom (spec : LinkSpec)
deriving DecidableEq, Repr

namespace ServiceLink

def spec : ServiceLink → LinkSpec
  | cloudToDeviceMessages => ⟨"cloud-to-device-sender", "/messages/devicebound", .sender⟩
  | feedback => ⟨"feedback-receiver", "/messages/serviceBound/feedback", .receiver⟩
  | fileNotifications =>
    ⟨"file-notification-receiver", "/messages/serviceBound/filenotifications", .receiver⟩
  | custom spec => spec

def name : ServiceLink → String
  | cloudToDeviceMessages => "cloud_to_device_messages"
  | feedback => "feedback"
  | fileNotifications => "file_notifications"
  | custom _ => "custom"

def inspect : ServiceLink → String
  | cloudToDeviceMessages => "CloudToDeviceMessages"
  | feedback => "Feedback"
  | fileNotifications => "FileNotifications"
  | custom spec => Text.variant "Custom" spec.inspect

end ServiceLink

end AmqpHandshake
